import CmsTypings.Naming.Resolver
import Mathlib.Data.List.Nodup

/-!
What references resolve to.

There are four routes from an attribute to a declaration: the uid of a relation, the uid of a
component, the bare name of a component, and the name of the media type. All of them end at an
entry of the roster whose schema is there.
-/

namespace CmsTypings.Naming

/-- Some entry with a schema bears the name. -/
def Names (entries : List Entry) (name : String) : Prop :=
  ∃ e ∈ entries, e.schema.isSome = true ∧ e.name = name

variable {entries : List Entry} {e : Entry} {uid name reference : String}

lemma of_latest? (h : latest? entries uid = some e) : e ∈ entries ∧ e.uid = uid := by
  have hm := List.mem_of_getLast? h
  rw [List.mem_filter] at hm
  exact ⟨hm.1, by simpa using hm.2⟩

lemma of_declared? (h : declared? entries uid = some e) :
    e ∈ entries ∧ e.uid = uid ∧ e.schema.isSome = true := by
  obtain ⟨hl, hs⟩ := Option.filter_eq_some_iff.1 h
  obtain ⟨hm, hu⟩ := of_latest? hl
  exact ⟨hm, hu, hs⟩

lemma of_component? (h : component? entries reference = some e) :
    e ∈ entries ∧ e.schema.isSome = true := by
  unfold component? at h
  split at h
  · obtain ⟨hm, -, hs⟩ := of_declared? (Option.filter_eq_some_iff.1 h).1
    exact ⟨hm, hs⟩
  · obtain ⟨hf, hs⟩ := Option.filter_eq_some_iff.1 h
    exact ⟨List.mem_of_find?_eq_some hf, hs⟩

lemma names_of_relationName? (h : relationName? entries uid = some name) :
    Names entries name := by
  obtain ⟨e, he, rfl⟩ := Option.map_eq_some_iff.1 h
  obtain ⟨hm, -, hs⟩ := of_declared? he
  exact ⟨e, hm, hs, rfl⟩

lemma names_of_componentName? (h : componentName? entries reference = some name) :
    Names entries name := by
  obtain ⟨e, he, rfl⟩ := Option.map_eq_some_iff.1 h
  obtain ⟨hm, hs⟩ := of_component? he
  exact ⟨e, hm, hs, rfl⟩

lemma names_of_mediaTypeName? (h : mediaTypeName? entries = some name) :
    Names entries name := by
  obtain ⟨e, he, rfl⟩ := Option.map_eq_some_iff.1 h
  have hmedia := List.find?_some he
  simp only [isMedia, Bool.and_eq_true] at hmedia
  exact ⟨e, List.mem_of_find?_eq_some he, hmedia.2, rfl⟩

end CmsTypings.Naming
