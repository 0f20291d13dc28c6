import CmsTypings.Proofs.Accounts

/-!
One more component.

A component declared after all others, under a uid of its own, is judged last. The entries before
it stay as they are, so of all the answers that references get only one kind can change: a
reference that found nothing may now find the new component. An attribute that became a property
keeps it, and interfaces gain properties where references dangled. Since an enumeration refers to
nothing, no interface gains an enumeration.
-/

namespace CmsTypings

open Naming

/-- The dump with one more component at the end. -/
def Dump.addComponent (d : Dump) (uid : String) (schema : Option Schema) : Dump :=
  { d with components := d.components.put uid schema }

lemma Dump.candidates_addComponent {d : Dump} {uid : String} (h : uid ∉ d.keys)
    (schema : Option Schema) :
    (d.addComponent uid schema).candidates = d.candidates ++ [⟨.component, uid, schema⟩] := by
  have hnew : uid ∉ d.components.keys := fun hk => h (List.mem_append_right _ hk)
  simp [candidates, addComponent, OrderedMap.entries_put_of_not_mem hnew]

/-! ### Answers with a new entry -/

/-- The answer `after` is the answer `before`, or there was none and it is `new` now. -/
def Gains {α : Type} (new : α) (before after : Option α) : Prop :=
  after = before ∨ before = none ∧ after = some new

section Gains

variable {α β : Type} {new : α} {before after : Option α}

lemma Gains.map (h : Gains new before after) (f : α → β) :
    Gains (f new) (before.map f) (after.map f) := by
  rcases h with rfl | ⟨rfl, rfl⟩
  · exact Or.inl rfl
  · exact Or.inr ⟨rfl, rfl⟩

lemma Gains.filter (h : Gains new before after) (p : α → Bool) :
    Gains new (before.filter p) (after.filter p) := by
  rcases h with rfl | ⟨rfl, rfl⟩
  · exact Or.inl rfl
  · cases hp : p new with
    | true => exact Or.inr ⟨rfl, by simp [hp]⟩
    | false => exact Or.inl (by simp [hp])

end Gains

namespace Naming

variable {entries : List Entry} {e : Entry}

lemma latest?_append_singleton (hnew : e.uid ∉ entries.map (·.uid)) (uid : String) :
    Gains e (latest? entries uid) (latest? (entries ++ [e]) uid) := by
  rw [latest?, latest?, List.filter_append]
  by_cases hu : e.uid = uid
  · have hnone : (entries.filter fun f => f.uid == uid) = [] := by
      rw [List.filter_eq_nil_iff]
      intro f hf hfu
      exact hnew (List.mem_map.2 ⟨f, hf, (by simpa using hfu : f.uid = uid).trans hu.symm⟩)
    exact Or.inr ⟨by rw [hnone]; rfl, by simp [hnone, hu]⟩
  · exact Or.inl (by simp [hu])

lemma declared?_append_singleton (hnew : e.uid ∉ entries.map (·.uid)) (uid : String) :
    Gains e (declared? entries uid) (declared? (entries ++ [e]) uid) :=
  (latest?_append_singleton hnew uid).filter _

/-- A search that ended goes no further, and one that did not sees the new entry as the last. -/
lemma find?_append_singleton (entries : List Entry) (e : Entry) (p : Entry → Bool) :
    Gains e (entries.find? p) ((entries ++ [e]).find? p) := by
  rw [List.find?_append]
  cases hf : entries.find? p with
  | some f => exact Or.inl rfl
  | none =>
    cases hp : p e with
    | true => exact Or.inr ⟨rfl, by simp [hp]⟩
    | false => exact Or.inl (by simp [hp])

lemma relationName?_append_singleton (hnew : e.uid ∉ entries.map (·.uid)) (uid : String) :
    Gains e.name (relationName? entries uid) (relationName? (entries ++ [e]) uid) :=
  (declared?_append_singleton hnew uid).map (·.name)

lemma componentName?_append_singleton (hnew : e.uid ∉ entries.map (·.uid)) (reference : String) :
    Gains e.name (componentName? entries reference)
      (componentName? (entries ++ [e]) reference) := by
  unfold componentName? component?
  split
  · exact ((declared?_append_singleton hnew reference).filter _).map (·.name)
  · exact ((find?_append_singleton entries e _).filter _).map (·.name)

lemma mediaTypeName?_append_component (ho : e.origin = .component) :
    mediaTypeName? (entries ++ [e]) = mediaTypeName? entries := by
  have hmedia : isMedia e = false := by simp [isMedia, ho]
  simp [mediaTypeName?, List.find?_append, hmedia]

end Naming

/-- A context that answers every reference as another one does, or gives it the name of a new
declaration where the other one has no answer. -/
structure Context.Grows (name : String) (ctx ctx' : Context) : Prop where
  filter : ctx'.filter = ctx.filter
  relation : ∀ uid, Gains name (relationName? ctx.entries uid) (relationName? ctx'.entries uid)
  component : ∀ reference,
    Gains name (componentName? ctx.entries reference) (componentName? ctx'.entries reference)
  media : mediaTypeName? ctx'.entries = mediaTypeName? ctx.entries

/-! ### Interfaces in a context that grows -/

namespace Member

variable {ctx ctx' : Context} {name uid : String}

/-- A target is what it was before, or it was not declared and is the new declaration now. -/
lemma target_of_gains {before after : Option String} (hf : ctx'.filter = ctx.filter)
    (h : Gains name before after) (uid : String) :
    target ctx' uid after = target ctx uid before ∨
      target ctx uid before = .error (.undeclared uid) ∧ target ctx' uid after = .ok name := by
  rcases h with rfl | ⟨rfl, rfl⟩
  · exact Or.inl (by simp [target, hf])
  · cases hs : ctx.filter.skips uid with
    | true => exact Or.inl (by simp [target, hf, hs])
    | false => exact Or.inr ⟨by simp [target, hs], by simp [target, hf, hs]⟩

/-- What an attribute becomes is what it became before, or it is a reference that dangled and
refers to the new declaration now. -/
def Settles (name : String) (before after : Except Omission Member) : Prop :=
  after = before ∨ ∃ uid m, before = .error (.undeclared uid) ∧ after = .ok m ∧
    m.dependency = some name ∧ m.enum = none

lemma settles_bind {x y : Except Omission String} {g : String → Member}
    (h : y = x ∨ x = .error (.undeclared uid) ∧ y = .ok name)
    (hg : ∀ type, (g type).dependency = some type ∧ (g type).enum = none) :
    Settles name (x >>= fun type => pure (g type)) (y >>= fun type => pure (g type)) := by
  rcases h with rfl | ⟨rfl, rfl⟩
  · exact Or.inl rfl
  · exact Or.inr ⟨uid, g name, rfl, rfl, hg name⟩

lemma componentTarget_of_grows (h : ctx.Grows name ctx') (reference : String)
    (user : Option String) : ∃ uid,
      componentTarget ctx' reference user = componentTarget ctx reference user ∨
        componentTarget ctx reference user = .error (.undeclared uid) ∧
          componentTarget ctx' reference user = .ok name := by
  unfold componentTarget
  split
  · exact ⟨_, target_of_gains h.filter (h.relation _) _⟩
  · exact ⟨_, target_of_gains h.filter (h.component _) _⟩

lemma ofAttribute_of_grows (h : ctx.Grows name ctx') (r : Entry) (n : String) (a : Attribute) :
    Settles name (ofAttribute ctx r n a) (ofAttribute ctx' r n a) := by
  obtain ⟨content, required⟩ := a
  cases hf : isMediaFormats r n with
  | true => exact Or.inl (by simp [ofAttribute, hf])
  | false =>
    unfold ofAttribute
    rw [if_neg (by simp [hf]), if_neg (by simp [hf])]
    cases content with
    | relation arity target =>
      cases target with
      | none => exact Or.inl rfl
      | some uid =>
        exact settles_bind (target_of_gains h.filter (h.relation uid) uid) fun _ => ⟨rfl, rfl⟩
    | component reference repeatable user =>
      obtain ⟨uid, htarget⟩ := componentTarget_of_grows h reference user
      exact settles_bind htarget fun _ => ⟨rfl, rfl⟩
    | media multiple =>
      refine Or.inl ?_
      simp only [h.media]
    | enumeration | password | dynamicZone | text | json | number | date | boolean | unknown =>
      exact Or.inl rfl

end Member

namespace Interface

variable {ctx ctx' : Context} {name : String}

/-- The interface `i'` is `i` with some more properties. -/
structure Grows (i i' : Interface) : Prop where
  uid : i'.uid = i.uid
  name : i'.name = i.name
  origin : i'.origin = i.origin
  enums : i'.enums = i.enums
  lines : (i.properties.map Property.line).Sublist (i'.properties.map Property.line)

lemma filterMap_sublist_filterMap {α β : Type} {f g : α → Option β} {l : List α}
    (h : ∀ a ∈ l, g a = f a ∨ f a = none) : (l.filterMap f).Sublist (l.filterMap g) := by
  induction l with
  | nil => exact .slnil
  | cons a l ih =>
    have hrest := ih fun b hb => h b (List.mem_cons_of_mem _ hb)
    rcases h a List.mem_cons_self with hg | hf
    · cases hfa : f a with
      | none => rwa [List.filterMap_cons_none hfa, List.filterMap_cons_none (hg.trans hfa)]
      | some b =>
        rw [List.filterMap_cons_some hfa, List.filterMap_cons_some (hg.trans hfa)]
        exact hrest.cons_cons _
    · rw [List.filterMap_cons_none hf]
      cases hga : g a with
      | none => rwa [List.filterMap_cons_none hga]
      | some b =>
        rw [List.filterMap_cons_some hga]
        exact hrest.cons _

/-- A schema keeps its members and may gain some, none of them with an enumeration. -/
lemma ofSchema_of_grows (h : ctx.Grows name ctx') (r : Entry) (s : Schema) :
    Grows (ofSchema ctx r s) (ofSchema ctx' r s) := by
  have hattribute := Member.ofAttribute_of_grows h r
  have hmembers : (members ctx r s).Sublist (members ctx' r s) := by
    refine filterMap_sublist_filterMap fun a _ => ?_
    rcases hattribute a.1 a.2 with heq | ⟨uid, m, hbefore, -⟩
    · exact Or.inl (congrArg Except.toOption heq)
    · exact Or.inr (by rw [hbefore]; rfl)
  have henums : (members ctx' r s).filterMap (·.enum) = (members ctx r s).filterMap (·.enum) := by
    rw [members, members, List.filterMap_filterMap, List.filterMap_filterMap]
    refine List.filterMap_congr fun a _ => ?_
    rcases hattribute a.1 a.2 with heq | ⟨uid, m, hbefore, hafter, -, henum⟩
    · rw [heq]
    · rw [hbefore, hafter]
      exact henum
  refine ⟨rfl, rfl, rfl, by simp only [ofSchema, henums], List.Sublist.map _ ?_⟩
  exact ((hmembers.map _).append_left _).append_right _

lemma forall₂_ofEntry_of_grows (h : ctx.Grows name ctx') (entries : List Entry) :
    List.Forall₂ Grows (entries.filterMap (ofEntry ctx)) (entries.filterMap (ofEntry ctx')) := by
  induction entries with
  | nil => exact .nil
  | cons e entries ih =>
    cases hs : e.schema with
    | none =>
      rwa [List.filterMap_cons_none (by simp [ofEntry, hs]),
        List.filterMap_cons_none (by simp [ofEntry, hs])]
    | some s =>
      rw [List.filterMap_cons_some (b := ofSchema ctx e s) (by simp [ofEntry, hs]),
        List.filterMap_cons_some (b := ofSchema ctx' e s) (by simp [ofEntry, hs])]
      exact .cons (ofSchema_of_grows h e s) ih

end Interface

/-! ### A conversion with one more component -/

namespace Conversion

section

variable {dump : Dump} {uid : String} (settings : Settings) (schema : Option Schema)

/-- The new component is enrolled after all others, or it is not enrolled. -/
lemma entries_addComponent (hnew : uid ∉ dump.keys) :
    ∃ new : Option Entry,
      (ofDump (dump.addComponent uid schema) settings).roster.entries =
        (ofDump dump settings).roster.entries ++ new.toList ∧
      ∀ e, new = some e → e.uid = uid ∧ e.origin = .component := by
  simp only [ofDump, Roster.ofDump, Dump.candidates_addComponent hnew]
  refine ⟨_, Roster.entries_judge_concat _ _ _ _, fun e he => ?_⟩
  obtain ⟨claim, rfl⟩ := Roster.exists_claim he
  exact ⟨rfl, rfl⟩

lemma uid_not_mem_entries (hnew : uid ∉ dump.keys) :
    uid ∉ (ofDump dump settings).roster.entries.map (·.uid) := by
  intro hu
  obtain ⟨e, he, rfl⟩ := List.mem_map.1 hu
  obtain ⟨c, hc, -, claim, rfl⟩ := Roster.exists_candidate_of_mem he
  exact hnew (dump.map_uid_candidates ▸ List.mem_map_of_mem hc)

/-- References are answered as before, but for those that found nothing and find the new entry. -/
lemma context_addComponent (hnew : uid ∉ dump.keys) :
    (ofDump (dump.addComponent uid schema) settings).context = (ofDump dump settings).context ∨
      ∃ e ∈ (ofDump (dump.addComponent uid schema) settings).roster.entries, e.uid = uid ∧
        (ofDump dump settings).context.Grows e.name
          (ofDump (dump.addComponent uid schema) settings).context := by
  obtain ⟨new, hentries, hlast⟩ := entries_addComponent settings schema hnew
  have hold := uid_not_mem_entries settings hnew
  rw [context, context, hentries]
  cases new with
  | none => exact Or.inl (by rw [Option.toList_none, List.append_nil]; rfl)
  | some e =>
    obtain ⟨rfl, ho⟩ := hlast e rfl
    exact Or.inr ⟨e, by simp, rfl, rfl, relationName?_append_singleton hold,
      componentName?_append_singleton hold, mediaTypeName?_append_component ho⟩

/-- Every entry that was assembled before is assembled again, with what it had. -/
lemma interfaces_addComponent (hnew : uid ∉ dump.keys) :
    ∃ kept, kept <+: (ofDump (dump.addComponent uid schema) settings).interfaces ∧
      List.Forall₂ Interface.Grows (ofDump dump settings).interfaces kept := by
  obtain ⟨new, hentries, -⟩ := entries_addComponent settings schema hnew
  have hinterfaces : ∀ c : Conversion,
      c.interfaces = c.roster.entries.filterMap (Interface.ofEntry c.context) := fun c => by
    rw [interfaces, assembled, List.filterMap_map]
    rfl
  rw [hinterfaces, hinterfaces, hentries, List.filterMap_append]
  refine ⟨_, List.prefix_append _ _, ?_⟩
  rcases context_addComponent settings schema hnew with heq | ⟨e, -, -, hgrows⟩
  · rw [heq]
    exact List.forall₂_same.2 fun i _ => ⟨rfl, rfl, rfl, rfl, List.Sublist.refl _⟩
  · exact Interface.forall₂_ofEntry_of_grows hgrows _

/-- What is left out stays left out, and nothing else is but the new component. -/
lemma skipped_addComponent (hnew : uid ∉ dump.keys) :
    (ofDump (dump.addComponent uid schema) settings).skipped.filter (· ≠ uid) =
      (ofDump dump settings).skipped := by
  have hold : ∀ u ∈ (ofDump dump settings).skipped, u ≠ uid := by
    rintro u hu rfl
    exact hnew ((uids_perm_keys dump settings).subset (List.mem_append_right _ hu))
  -- both lists of uids are longer by the new one at most
  have hlast : ∀ p : List Candidate × Candidate → Bool, ∃ new : List String,
      (((turns (dump.addComponent uid schema).candidates).filter p).map Prod.snd).map (·.uid) =
        (((turns dump.candidates).filter p).map Prod.snd).map (·.uid) ++ new ∧
      new.filter (· ≠ uid) = [] := by
    intro p
    rw [Dump.candidates_addComponent hnew, turns_concat, List.filter_append, List.map_append,
      List.map_append]
    refine ⟨_, rfl, ?_⟩
    cases hp : p (dump.candidates, ⟨.component, uid, schema⟩) <;> simp [hp]
  rw [skipped_eq_refused_append] at hold ⊢
  rw [skipped_eq_refused_append]
  obtain ⟨refusedNew, hrefused, hrefusedNew⟩ := hlast (refuses settings)
  obtain ⟨emptyNew, hempty, hemptyNew⟩ :=
    hlast fun t => !refuses settings t && t.2.schema.isNone
  rw [refused, enrolledEmpty, hrefused, hempty]
  simp only [List.filter_append, hrefusedNew, hemptyNew, List.append_nil]
  rw [← List.filter_append]
  exact List.filter_eq_self.2 fun u hu => by simpa using hold u hu

end

/-- The conversion `after` is `before` with a component of the given uid at the end. -/
structure Extends (uid : String) (before after : Conversion) : Prop where
  entries : before.roster.entries <+: after.roster.entries
  interfaces : ∃ kept, kept <+: after.interfaces ∧
    List.Forall₂ Interface.Grows before.interfaces kept
  references : ∀ r n a, Member.ofAttribute after.context r n a =
      Member.ofAttribute before.context r n a ∨
    ∃ target m, Member.ofAttribute before.context r n a = .error (.undeclared target) ∧
      Member.ofAttribute after.context r n a = .ok m ∧
      ∃ e ∈ after.roster.entries, e.uid = uid ∧ m.dependency = some e.name
  skipped : after.skipped.filter (· ≠ uid) = before.skipped

/-- **Adding a component is conservative.** A component declared at the end, under a uid of its
own, changes no entry before it. What was assembled is assembled again in the same order, with the
same names and enumerations and with all its lines; a line is added only for a reference that had
no declaration and now has the new one; and no other uid is left out than before. -/
theorem extends_addComponent (dump : Dump) (settings : Settings) {uid : String}
    (schema : Option Schema) (hnew : uid ∉ dump.keys) :
    Extends uid (ofDump dump settings) (ofDump (dump.addComponent uid schema) settings) := by
  refine ⟨?_, interfaces_addComponent settings schema hnew, fun r n a => ?_,
    skipped_addComponent settings schema hnew⟩
  · obtain ⟨new, hentries, -⟩ := entries_addComponent settings schema hnew
    exact hentries ▸ List.prefix_append _ _
  · rcases context_addComponent settings schema hnew with heq | ⟨e, he, hu, hgrows⟩
    · exact Or.inl (by rw [heq])
    · rcases Member.ofAttribute_of_grows hgrows r n a with hsame | ⟨target, m, hb, ha, hd, -⟩
      · exact Or.inl hsame
      · exact Or.inr ⟨target, m, hb, ha, e, he, hu, hd⟩

/-- A page with two references, by uid and by name, to a component that is not declared. -/
def pageWithoutSeo : Dump where
  contentTypes := .ofList
    [("api::page.page",
      some { singularName := some "page"
             attributes := .ofList
               [("seo", ⟨.component "shared.seo" false none, false⟩),
                ("kind", ⟨.enumeration ["plain", "rich"] none, false⟩),
                ("cards", ⟨.component "Seo" true none, false⟩)] })]
  components := .ofList [("shared.link", none)]

/-- When the component is there, the page has the two properties that it lacked. -/
theorem pageWithoutSeo_extends :
    "shared.seo" ∉ pageWithoutSeo.keys ∧
      Extends "shared.seo" (ofDump pageWithoutSeo {})
        (ofDump (pageWithoutSeo.addComponent "shared.seo" (some { displayName := some "Seo" })) {}) ∧
      (ofDump pageWithoutSeo {}).interfaces.map (·.properties.map (·.name)) =
        [["id", "documentId", "kind"]] ∧
      (ofDump (pageWithoutSeo.addComponent "shared.seo" (some { displayName := some "Seo" }))
          {}).interfaces.map (·.properties.map (·.name)) =
        [["id", "documentId", "seo", "kind", "cards"], []] := by
  have hnew : "shared.seo" ∉ pageWithoutSeo.keys := by decide +kernel
  exact ⟨hnew, extends_addComponent pageWithoutSeo {} _ hnew, by decide +kernel, by decide +kernel⟩

end Conversion

end CmsTypings
