import ArgoQuery.Main
import ArgoQuery.Rest.PageServer
import ArgoQuery.Table.Select.Encoding
import ArgoQuery.Descriptor.Decoding
import ArgoQuery.Proofs.Join.InnerJoin
import ArgoQuery.Proofs.Join.OrderIndependence
import ArgoQuery.Proofs.Join.PartialFailure
import ArgoQuery.Proofs.Join.RequestTrace
import ArgoQuery.Proofs.Join.DateRanges
import ArgoQuery.Proofs.Engine.AdvisoryIndependence
import ArgoQuery.Proofs.Join.Statistics
import ArgoQuery.Proofs.Join.RowOrigins
import ArgoQuery.Proofs.Rest.PagedFetch
import ArgoQuery.Proofs.Table.NumberKeys
import ArgoQuery.Proofs.Descriptor.PositionConditions
import ArgoQuery.Proofs.Join.RowConditions
import ArgoQuery.Proofs.Json.NumberText
import ArgoQuery.Proofs.Json.QuotedText
import ArgoQuery.Proofs.Json.RoundTrip
import ArgoQuery.Proofs.Rest.RowPayload
import ArgoQuery.Proofs.Join.FieldOrder
import ArgoQuery.Proofs.Join.RemoteStore
import ArgoQuery.Proofs.Join.PageStability
import ArgoQuery.Proofs.Binary64.RoundedSums
import ArgoQuery.Proofs.Binary64.Middles
import ArgoQuery.Proofs.Geography.CoordinateBoxes
import ArgoQuery.Proofs.Report.Centers
import ArgoQuery.Proofs.Report.OrderIndependence
import ArgoQuery.Proofs.Descriptor.CanonicalText
import ArgoQuery.Proofs.Join.ProjectedColumns
import ArgoQuery.Proofs.Calendar.DayCount
import ArgoQuery.Proofs.Engine.PlannedDates
import ArgoQuery.Proofs.Engine.CaseIndependence
import ArgoQuery.Proofs.Advisory.FencedText
import ArgoQuery.Proofs.Engine.MaskedPhrases
import ArgoQuery.Proofs.Settings.RequestHeaders
import ArgoQuery.Proofs.Json.ReadValues
import ArgoQuery.Proofs.Table.Payloads
import ArgoQuery.Proofs.Join.SelectParameters
import ArgoQuery.Proofs.Calendar.BoundedYears
import ArgoQuery.Proofs.Table.BuiltRows
import ArgoQuery.Proofs.Engine.StoreTraffic
