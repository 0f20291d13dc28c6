import CmsTypings.Proofs.EnumText

/-!
The assembly of an interface.

An interface can be written in one pass over the attributes of its schema. Every attribute that is
not omitted adds its line to the text; its enumeration, and the declaration that it depends on, are
set behind those of the attributes before unless they are among them. What the pass leaves behind is
described without it: the lines in the order of the attributes, and the texts of the enumerations
and the dependencies, each once, where they first come up. Texts are compared here and not
enumerations, which makes no difference among the enumerations of one schema.
-/

namespace CmsTypings

/-! ### First occurrences -/

/-- The members of a row, each listed once, in the order in which they first come up. -/
structure ListsFirst {α : Type} [DecidableEq α] (row listed : List α) : Prop where
  nodup : listed.Nodup
  mem_iff : ∀ x, x ∈ listed ↔ x ∈ row
  ordered : listed.Pairwise fun x y => row.idxOf x < row.idxOf y

/-- A list with one more member at its end, unless it has it already. -/
def appendNew {α : Type} [DecidableEq α] (listed : List α) (x : α) : List α :=
  if x ∈ listed then listed else listed ++ [x]

section FirstOccurrences

variable {α : Type} [DecidableEq α]

lemma eraseDups_append_singleton (row : List α) (x : α) :
    (row ++ [x]).eraseDups = appendNew row.eraseDups x := by
  rw [List.eraseDups_append, appendNew]
  by_cases hx : x ∈ row
  · simp [hx, List.removeAll]
  · simp [hx, List.removeAll, List.eraseDups_cons]

lemma pairwise_idxOf_eraseDups (row : List α) :
    row.eraseDups.Pairwise fun x y => row.idxOf x < row.idxOf y := by
  induction row using List.reverseRecOn with
  | nil => exact List.Pairwise.nil
  | append_singleton row x ih =>
    -- what has come up before keeps its place in the longer row
    have hold : row.eraseDups.Pairwise fun y z =>
        (row ++ [x]).idxOf y < (row ++ [x]).idxOf z := by
      refine ih.imp_of_mem fun hy hz hlt => ?_
      rw [List.idxOf_append_of_mem (List.mem_eraseDups.1 hy),
        List.idxOf_append_of_mem (List.mem_eraseDups.1 hz)]
      exact hlt
    rw [eraseDups_append_singleton, appendNew]
    by_cases hx : x ∈ row.eraseDups
    · rwa [if_pos hx]
    · rw [if_neg hx]
      refine List.pairwise_append.2 ⟨hold, List.pairwise_singleton _ _, fun y hy z hz => ?_⟩
      obtain rfl := List.mem_singleton.1 hz
      have hrow : z ∉ row := fun hmem => hx (List.mem_eraseDups.2 hmem)
      have hyrow : y ∈ row := List.mem_eraseDups.1 hy
      have hbefore : row.idxOf y < row.length := List.idxOf_lt_length_iff.2 hyrow
      rw [List.idxOf_append_of_mem hyrow, List.idxOf_append_of_notMem hrow]
      omega

/-- Each member of a row is kept where it first comes up. -/
lemma listsFirst_eraseDups (row : List α) : ListsFirst row row.eraseDups where
  nodup := nodup_eraseDups row
  mem_iff _ := List.mem_eraseDups
  ordered := pairwise_idxOf_eraseDups row

end FirstOccurrences

/-! ### The pass -/

namespace Interface

/-- The line in which an interface is opened, with its name and its type parameter. -/
def headerLine (name : String) : String :=
  "export interface " ++ name ++ "<P extends boolean = true> \x7b\n"

/-- The lines in front of those of the attributes. -/
def identityLines : Origin → List String
  | .contentType => ["  id?: number;\n", "  documentId?: string;\n"]
  | .component => []

/-- The lines behind those of the attributes. -/
def localeLines (name : String) (localized : Bool) : List String :=
  if localized then ["  locale: string;\n", "  localizations?: " ++ name ++ "[];\n"] else []

lemma header_eq (name : String) : header name = headerLine name := rfl

lemma map_line_identityProperties (origin : Origin) :
    (identityProperties origin).map Property.line = identityLines origin := by
  cases origin <;> rfl

lemma map_line_localeProperties (name : String) (localized : Bool) :
    (localeProperties name localized).map Property.line = localeLines name localized := by
  cases localized <;> simp [localeProperties, localeLines, Property.line, String.append_assoc]

/-- The texts of the enumerations of members, one after the other. -/
def enumTexts (ms : List Member) : List String := (ms.filterMap (·.enum)).map EnumBlock.render

/-- The declarations that members depend on, one after the other. -/
def dependencyNames (ms : List Member) : List String := ms.filterMap (·.dependency)

end Interface

/-- What has been written, and the enumerations and dependencies that have been listed. -/
structure Assembly where
  text : String
  enums : List String
  dependencies : List String

namespace Assembly

/-- A list with one more member at its end, if there is one and the list does not have it. -/
def note (listed : List String) (x : Option String) : List String :=
  x.elim listed (appendNew listed)

def begin (e : Entry) : Assembly :=
  ⟨Interface.headerLine e.name ++ String.join (Interface.identityLines e.origin), [], []⟩

def add (w : Assembly) (m : Member) : Assembly :=
  ⟨w.text ++ m.property.line, note w.enums (m.enum.map EnumBlock.render),
    note w.dependencies m.dependency⟩

/-- An attribute that is omitted leaves everything as it is. -/
def step (ctx : Context) (e : Entry) (w : Assembly) (a : String × Attribute) : Assembly :=
  match Member.ofAttribute ctx e a.1 a.2 with
  | .error _ => w
  | .ok m => w.add m

def finish (e : Entry) (s : Schema) (w : Assembly) : Assembly :=
  { w with text := w.text ++ String.join (Interface.localeLines e.name s.localized) ++ "\x7d\n" }

def run (ctx : Context) (e : Entry) (s : Schema) : Assembly :=
  finish e s (s.attributes.entries.foldl (step ctx e) (begin e))

/-- What the members that have been added leave behind. -/
def ofMembers (e : Entry) (ms : List Member) : Assembly :=
  ⟨(begin e).text ++ String.join (ms.map (·.property.line)),
    (Interface.enumTexts ms).eraseDups, (Interface.dependencyNames ms).eraseDups⟩

lemma note_eraseDups (row : List String) (x : Option String) :
    note row.eraseDups x = (row ++ x.toList).eraseDups := by
  cases x with
  | none => simp [note]
  | some x => exact (eraseDups_append_singleton row x).symm

lemma add_ofMembers (e : Entry) (ms : List Member) (m : Member) :
    (ofMembers e ms).add m = ofMembers e (ms ++ [m]) := by
  have henums : Interface.enumTexts (ms ++ [m]) =
      Interface.enumTexts ms ++ (m.enum.map EnumBlock.render).toList := by
    cases hm : m.enum <;> simp [Interface.enumTexts, hm]
  have hdependencies : Interface.dependencyNames (ms ++ [m]) =
      Interface.dependencyNames ms ++ m.dependency.toList := by
    cases hm : m.dependency <;> simp [Interface.dependencyNames, hm]
  have htext : String.join ((ms ++ [m]).map (·.property.line)) =
      String.join (ms.map (·.property.line)) ++ m.property.line := by
    simp
  rw [ofMembers, ofMembers, henums, hdependencies, htext, add, note_eraseDups, note_eraseDups,
    String.append_assoc]

/-- The members that attributes become. -/
def emitted (ctx : Context) (e : Entry) (attributes : List (String × Attribute)) : List Member :=
  attributes.filterMap fun a => (Member.ofAttribute ctx e a.1 a.2).toOption

lemma emitted_append_singleton (ctx : Context) (e : Entry) (before : List (String × Attribute))
    (a : String × Attribute) :
    emitted ctx e (before ++ [a]) =
      emitted ctx e before ++ (Member.ofAttribute ctx e a.1 a.2).toOption.toList := by
  cases ha : (Member.ofAttribute ctx e a.1 a.2).toOption <;> simp [emitted, ha]

/-- One attribute more, and the pass has what the members with its own leave behind. -/
lemma step_ofMembers (ctx : Context) (e : Entry) (before : List (String × Attribute))
    (a : String × Attribute) :
    step ctx e (ofMembers e (emitted ctx e before)) a =
      ofMembers e (emitted ctx e (before ++ [a])) := by
  rw [emitted_append_singleton, step]
  cases Member.ofAttribute ctx e a.1 a.2 with
  | error => simp [Except.toOption]
  | ok m => exact add_ofMembers e _ m

lemma foldl_step (ctx : Context) (e : Entry) (attributes : List (String × Attribute)) :
    attributes.foldl (step ctx e) (begin e) = ofMembers e (emitted ctx e attributes) := by
  induction attributes using List.reverseRecOn with
  | nil => simp [emitted, ofMembers, begin, Interface.enumTexts, Interface.dependencyNames]
  | append_singleton before a ih =>
    rw [List.foldl_append, ih, List.foldl_cons, List.foldl_nil, step_ofMembers]

end Assembly

/-! ### The interface -/

namespace Interface

/-- What an interface of a schema is: its lines, and what is listed beside them. -/
structure IsAssembly (ctx : Context) (e : Entry) (s : Schema) (i : Interface) : Prop where
  body : i.body = String.join
    (headerLine e.name :: identityLines e.origin ++ (members ctx e s).map (·.property.line) ++
      localeLines e.name s.localized ++ ["\x7d\n"])
  enums : ListsFirst (enumTexts (members ctx e s)) (i.enums.map EnumBlock.render)
  dependencies : ListsFirst (dependencyNames (members ctx e s)) i.dependencies
  onePass : Assembly.run ctx e s = ⟨i.body, i.enums.map EnumBlock.render, i.dependencies⟩

lemma body_ofSchema (ctx : Context) (e : Entry) (s : Schema) :
    (ofSchema ctx e s).body = String.join
      (headerLine e.name :: identityLines e.origin ++ (members ctx e s).map (·.property.line) ++
        localeLines e.name s.localized ++ ["\x7d\n"]) := by
  have hlines : (ofSchema ctx e s).properties.map Property.line =
      identityLines e.origin ++ (members ctx e s).map (·.property.line) ++
        localeLines e.name s.localized := by
    rw [← map_line_identityProperties, ← map_line_localeProperties]
    simp [ofSchema, Function.comp_def]
  rw [body, hlines, header_eq]
  simp [ofSchema, String.append_assoc]

lemma ofSchema_isAssembly (ctx : Context) (e : Entry) (s : Schema) :
    IsAssembly ctx e s (ofSchema ctx e s) := by
  have hbody := body_ofSchema ctx e s
  have henums := render_enums ctx e s
  have hrun : Assembly.run ctx e s =
      Assembly.finish e s (Assembly.ofMembers e (members ctx e s)) := by
    rw [Assembly.run, Assembly.foldl_step]
    rfl
  refine ⟨hbody, ?_, listsFirst_eraseDups _, ?_⟩
  · rw [henums]
    exact listsFirst_eraseDups _
  · have htext : (Assembly.finish e s (Assembly.ofMembers e (members ctx e s))).text =
        (ofSchema ctx e s).body := by
      rw [hbody]
      simp [Assembly.finish, Assembly.ofMembers, Assembly.begin, String.append_assoc]
    rw [hrun, henums, ← htext]
    rfl

/-- **The assembly of an interface.** An entry has an interface exactly if it has a schema. The
interface is what one pass over the attributes of the schema leaves behind: its text has the lines
of the members in their order between those of the origin and those of localization, and its
enumerations and dependencies are those of the members, each once, where they first come up. -/
theorem ofEntry_isAssembly (ctx : Context) (e : Entry) :
    (ofEntry ctx e = none ↔ e.schema = none) ∧
      ∀ s, e.schema = some s → ∃ i, ofEntry ctx e = some i ∧ IsAssembly ctx e s i := by
  constructor
  · rw [ofEntry, Option.map_eq_none_iff]
  · intro s hs
    refine ⟨ofSchema ctx e s, ?_, ofSchema_isAssembly ctx e s⟩
    rw [ofEntry, hs]
    rfl

/-- An album with a cover, a key that is omitted, photos, and one kind that is declared twice. -/
def albumSchema : Schema where
  singularName := some "album"
  attributes := .ofList
    [("cover", ⟨.media false, false⟩), ("key", ⟨.password, false⟩),
     ("photos", ⟨.media true, true⟩), ("my_kind", ⟨.enumeration ["live"] none, true⟩),
     ("myKind", ⟨.enumeration ["live"] none, true⟩)]
  localized := true

def album : Entry := ⟨"api::album.album", "album", "Album", .contentType, false, some albumSchema⟩

/-- Albums and the media that they show. -/
def albumContext : Context where
  entries := [album, ⟨"plugin::upload.file", mediaName, "Media", .contentType, false, some {}⟩]
  filter := .ofRules []

/-- Five attributes leave four lines, one enumeration and one dependency. -/
theorem album_isAssembly :
    ∃ i, ofEntry albumContext album = some i ∧ IsAssembly albumContext album albumSchema i ∧
      i.properties.map (·.name) = ["id", "documentId", "cover", "photos", "my_kind", "myKind",
        "locale", "localizations"] ∧
      i.enums = [⟨"Album_MyKind", ["live"]⟩] ∧ i.dependencies = ["Media"] := by
  obtain ⟨i, hi, hassembly⟩ := (ofEntry_isAssembly albumContext album).2 albumSchema rfl
  have hlists : (ofEntry albumContext album).map (fun i =>
      (i.properties.map (·.name), i.enums, i.dependencies)) =
      some (["id", "documentId", "cover", "photos", "my_kind", "myKind", "locale",
        "localizations"], [⟨"Album_MyKind", ["live"]⟩], ["Media"]) := by
    decide +kernel
  rw [hi, Option.map_some, Option.some.injEq, Prod.mk.injEq, Prod.mk.injEq] at hlists
  exact ⟨i, hi, hassembly, hlists.1, hlists.2.1, hlists.2.2⟩

end Interface

end CmsTypings
