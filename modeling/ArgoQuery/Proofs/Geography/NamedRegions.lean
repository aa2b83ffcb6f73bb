import ArgoQuery.Proofs.Geography.CoordinateBoxes
import ArgoQuery.Proofs.Text.LowercaseParts

/-!
# Named regions

A text is located at the first region, in the order of the gazetteer, whose name occurs in its
lowercase form (`locate?_of_first`), and only if none does are coordinates looked for. The built-in
regions come first, so what settings add never takes the place of one. Valid settings only have
names in lower case, and these are still there when the text around them has been lowercased. Main
statement: `locate?_configured`.
-/

namespace ArgoQuery.Geography

/-- Whether the name of a region occurs in a text, once the text is in lower case. -/
def Region.OccursIn (region : Region) (text : String) : Prop :=
  region.name.toList <:+: (Text.lowercase text).toList

instance (region : Region) (text : String) : Decidable (region.OccursIn text) :=
  inferInstanceAs (Decidable (_ <:+: _))

/-- The match that a region gives. -/
def Region.toMatch (region : Region) : LocationMatch := ⟨region.box, region.label, region.name⟩

/-- Whether a region is the first of a list that occurs in a text. -/
def IsFirstNamed (regions : List Region) (text : String) (region : Region) : Prop :=
  ∃ before after, regions = before ++ region :: after ∧ region.OccursIn text ∧
    ∀ earlier ∈ before, ¬ earlier.OccursIn text

/-- The regions that occur in a text, if there are any, have a first. -/
theorem exists_isFirstNamed {regions : List Region} {text : String} {region : Region}
    (member : region ∈ regions) (occurs : region.OccursIn text) :
    ∃ first, IsFirstNamed regions text first := by
  induction regions with
  | nil => exact absurd member List.not_mem_nil
  | cons head rest ih =>
    by_cases here : head.OccursIn text
    · exact ⟨head, [], rest, rfl, here, fun _ early => absurd early List.not_mem_nil⟩
    · have later : region ∈ rest := by
        rcases List.mem_cons.mp member with rfl | later
        · exact absurd occurs here
        · exact later
      obtain ⟨first, before, after, rfl, named, none_before⟩ := ih later
      exact ⟨first, head :: before, after, rfl, named, List.forall_mem_cons.mpr ⟨here, none_before⟩⟩

/-- What comes after the first region that occurs does not matter. -/
theorem IsFirstNamed.append {regions : List Region} {text : String} {region : Region}
    (first : IsFirstNamed regions text region) (further : List Region) :
    IsFirstNamed (regions ++ further) text region := by
  obtain ⟨before, after, rfl, occurs, none_before⟩ := first
  exact ⟨before, after ++ further, by simp, occurs, none_before⟩

/-- The name of a region is a part of a text in small letters exactly if the region occurs in it. -/
theorem contains_name_iff {region : Region} {text : String} :
    Text.contains (Text.lowercase text) region.name = true ↔ region.OccursIn text :=
  Text.occurs_iff

section Gazetteer

variable {gazetteer : Gazetteer} {text : String}

/-- A gazetteer finds no region exactly if none of its regions occurs in the text. -/
theorem regionIn?_eq_none_iff :
    gazetteer.regionIn? text = none ↔ ∀ region ∈ gazetteer.regions, ¬ region.OccursIn text := by
  simp only [Gazetteer.regionIn?, Option.map_eq_none_iff, List.find?_eq_none, contains_name_iff]

/-- A text is located at the first region that occurs in it. -/
theorem locate?_of_first {region : Region} (first : IsFirstNamed gazetteer.regions text region) :
    gazetteer.locate? text = some region.toMatch := by
  obtain ⟨before, after, order, occurs, none_before⟩ := first
  have found : gazetteer.regions.find?
      (fun region => Text.contains (Text.lowercase text) region.name) = some region := by
    refine List.find?_eq_some_iff_append.mpr
      ⟨contains_name_iff.mpr occurs, before, after, order, ?_⟩
    intro earlier member
    simp [mt contains_name_iff.mp (none_before earlier member)]
  rw [Gazetteer.locate?, Gazetteer.regionIn?, found]
  rfl

end Gazetteer

/-- The names of regions in valid settings are in lower case. -/
theorem lowercase_name_of_valid {settings : Settings} (valid : settings.fault? = none)
    {region : Region} (configured : region ∈ settings.regions) :
    Text.lowercase region.name = region.name := by
  have listed : (⟨!isRegionName region.name, .regionNameNotLowercase region.name⟩ : Check) ∈
      settings.checks := by
    refine List.mem_append_right _ (List.mem_flatMap.mpr ⟨region, configured, ?_⟩)
    simp [regionChecks]
  have passes := Settings.passes_of_valid valid listed
  simp only [isRegionName, Bool.not_eq_false', Bool.and_eq_true, beq_iff_eq] at passes
  exact passes.2

/-- A configured region whose name a text has as it is written occurs in the text. -/
theorem occursIn_of_configured {settings : Settings} (valid : settings.fault? = none)
    {region : Region} (configured : region ∈ settings.regions) {text : String}
    (written : region.name.toList <:+: text.toList) : region.OccursIn text :=
  Text.infix_lowercase (Text.isLower_of_lowercase_eq (lowercase_name_of_valid valid configured))
    written

/-- Configured regions are found and never shadow built-in ones.

With valid settings a text that has the name of a configured region as it is written is located at
the first region, built-in ones before configured ones, whose name occurs in its lowercase form. A
text in which a built-in name occurs is located where the built-in gazetteer locates it.

Regions are tried in their order, so what is needed is that one of them occurs, and that those
before it are tried alike. -/
theorem locate?_configured {settings : Settings} (valid : settings.fault? = none) (text : String) :
    (∀ region ∈ settings.regions, region.name.toList <:+: text.toList →
      ∃ first, IsFirstNamed (builtinRegions ++ settings.regions) text first ∧
        settings.gazetteer.locate? text = some ⟨first.box, first.label, first.name⟩) ∧
    ∀ region ∈ builtinRegions, region.OccursIn text →
      settings.gazetteer.locate? text = Gazetteer.builtin.locate? text := by
  constructor
  · intro region configured written
    obtain ⟨first, named⟩ := exists_isFirstNamed (List.mem_append_right builtinRegions configured)
      (occursIn_of_configured valid configured written)
    exact ⟨first, named, locate?_of_first named⟩
  · intro region listed occurs
    obtain ⟨first, named⟩ := exists_isFirstNamed listed occurs
    have alone : Gazetteer.builtin.locate? text = some first.toMatch := locate?_of_first named
    rw [alone]
    exact locate?_of_first (named.append settings.regions)

/-- A name that ends in a final sigma is found where letters follow it, after a capital letter whose
lowercase form has two characters, and comes before coordinates; and a name that is part of the
Pacific's does not keep that from being found. -/
theorem locate?_configured_names :
    let street : Region := ⟨"οδος", "Street", ⟨1, 2, 3, 4⟩⟩
    let settings := { plainSettings with regions := [⟨"pac", "Pac", ⟨0, 1, 0, 1⟩⟩, street] }
    settings.fault? = none ∧
      (∃ first, IsFirstNamed (builtinRegions ++ settings.regions) "10N 70E, İZMİR οδοςΑ" first ∧
        settings.gazetteer.locate? "10N 70E, İZMİR οδοςΑ" =
          some ⟨first.box, first.label, first.name⟩) ∧
      settings.gazetteer.locate? "10N 70E, İZMİR οδοςΑ" = some ⟨⟨1, 2, 3, 4⟩, "Street", "οδος"⟩ ∧
      settings.gazetteer.locate? "οδος in the PACIFIC" =
        Gazetteer.builtin.locate? "οδος in the PACIFIC" := by
  intro street settings
  have valid : settings.fault? = none := by decide +kernel
  refine ⟨valid, ?_, by decide +kernel, ?_⟩
  · exact (locate?_configured valid _).1 street (List.mem_cons_of_mem _ List.mem_cons_self)
      (by decide +kernel)
  · exact (locate?_configured valid _).2 ⟨"pacific", "Pacific Ocean", ⟨-60, 60, 120, -70⟩⟩
      (by decide +kernel) (by decide +kernel)

end ArgoQuery.Geography
