import CmsTypings.Disk.Basic
import CmsTypings.Proofs.Outcome

/-!
Where paths lead, and what is there after a file was written.

A file is written where no directory is, so the directories stay as they are and every path leads
where it led before. A place begins with the last name of each path that leads to it, so the paths to
one place have one extension.
-/

namespace CmsTypings

namespace Disk

namespace Path

variable {p q : Path} {name : String}

/-! ### The last name of a path -/

/-- A name that a path can have. -/
structure IsName (name : String) : Prop where
  ne_nil : name.toList ≠ []
  no_slash : '/' ∉ name.toList

/-- The path is written as the name, alone or inside a directory. -/
def EndsIn (p : Path) (name : String) : Prop :=
  p.text = name ∨ ∃ outer, p.text.toList = outer ++ '/' :: name.toList

lemma pieces_ne_nil (text : List Char) : pieces text ≠ [] := by
  cases text with
  | nil => exact List.cons_ne_nil _ _
  | cons c rest =>
    rw [pieces]
    split
    · exact List.cons_ne_nil _ _
    · split <;> exact List.cons_ne_nil _ _

lemma pieces_append_slash (outer rest : List Char) :
    pieces (outer ++ '/' :: rest) = pieces outer ++ pieces rest := by
  induction outer with
  | nil => simp [pieces]
  | cons c outer ih =>
    rw [List.cons_append, pieces, pieces, ih]
    split
    · rfl
    · obtain ⟨piece, more, hpieces⟩ := List.exists_cons_of_ne_nil (pieces_ne_nil outer)
      rw [hpieces]
      rfl

lemma pieces_of_no_slash {text : List Char} (h : '/' ∉ text) : pieces text = [text] := by
  induction text with
  | nil => rfl
  | cons c rest ih =>
    rw [List.mem_cons, not_or] at h
    obtain ⟨hc, hrest⟩ := h
    rw [pieces, if_neg (Ne.symm hc), ih hrest]

/-- The last name of a path that is written with it. -/
lemma EndsIn.getLast?_names (h : p.EndsIn name) (hname : IsName name) :
    p.names.getLast? = some name := by
  obtain h | ⟨outer, h⟩ := h
  · simp [names, h, pieces_of_no_slash hname.no_slash, hname.ne_nil]
  · simp [names, h, pieces_append_slash, pieces_of_no_slash hname.no_slash, hname.ne_nil]

lemma endsIn_join (p : Path) (name : String) : (p.join name).EndsIn name := by
  rw [join]
  split
  · next h =>
    rw [Bool.or_eq_true] at h
    obtain hempty | hslash := h
    · exact .inl (by simp [String.isEmpty_iff.1 hempty])
    · obtain ⟨outer, houter⟩ := List.getLast?_eq_some_iff.1 (of_decide_eq_true hslash)
      exact .inr ⟨outer, by simp [houter]⟩
  · exact .inr ⟨p.text.toList, by simp⟩

/-- A further extension stands behind the last name. -/
lemma EndsIn.withExtension (h : p.EndsIn name) (hname : IsName name) (extension : String) :
    (p.withExtension extension).EndsIn (name ++ "." ++ extension) := by
  obtain ⟨start, last, hlast⟩ := (List.eq_nil_or_concat' name.toList).resolve_left hname.ne_nil
  have hne : last ≠ '/' := by
    rintro rfl
    exact hname.no_slash (by simp [hlast])
  have htext : (p.withExtension extension).text = p.text ++ "." ++ extension := by
    have hend : ∃ outer, p.text.toList = outer ++ [last] := by
      obtain h | ⟨outer, h⟩ := h
      · exact ⟨start, by rw [h, hlast]⟩
      · exact ⟨outer ++ '/' :: start, by simp [h, hlast]⟩
    obtain ⟨outer, houter⟩ := hend
    have hstrip : (p.text.toList.reverse.dropWhile (· = '/')).reverse = p.text.toList := by
      simp [houter, hne]
    rw [Path.withExtension, hstrip, String.ofList_toList]
  obtain h | ⟨outer, h⟩ := h
  · exact .inl (by rw [htext, h])
  · exact .inr ⟨outer, by simp [htext, h]⟩

/-! ### Extensions -/

lemma extension_congr (h : p.names.getLast? = q.names.getLast?) : p.extension = q.extension := by
  rw [extension, extension, h]

/-- What can stand behind a dot and be the extension. -/
structure IsExtension (extension : String) : Prop extends IsName extension where
  no_dot : '.' ∉ extension.toList

/-- A path that is given an extension has it. -/
lemma EndsIn.extension_withExtension (h : p.EndsIn name) (hname : IsName name) {extension : String}
    (hextension : IsExtension extension) : (p.withExtension extension).extension = extension := by
  have hlast : IsName (name ++ "." ++ extension) :=
    ⟨by simp, by simp [hname.no_slash, hextension.no_slash]⟩
  have hbehind : (name ++ "." ++ extension).toList.reverse.takeWhile (· ≠ '.') =
      extension.toList.reverse := by
    have hall : ∀ c ∈ extension.toList.reverse, decide (c ≠ '.') = true := by
      intro c hc
      exact decide_eq_true fun hdot => hextension.no_dot (hdot ▸ List.mem_reverse.1 hc)
    simp only [String.toList_append, List.reverse_append, List.takeWhile_append_of_pos hall]
    simp
  have hname' : 0 < name.toList.length := List.length_pos_of_ne_nil hname.ne_nil
  have hextension' : 0 < extension.toList.length := List.length_pos_of_ne_nil hextension.ne_nil
  have hlength : (name ++ "." ++ extension).length =
      name.toList.length + 1 + extension.toList.length := by
    simp only [String.length_append, String.length_toList]
    rfl
  have hbefore : extension.toList.reverse.length + 1 < (name ++ "." ++ extension).length := by
    rw [List.length_reverse]
    omega
  have hdots : name ++ "." ++ extension ≠ ".." := by
    intro h
    have : (name ++ "." ++ extension).length = 2 := by rw [h]; rfl
    omega
  rw [Path.extension, (h.withExtension hname extension).getLast?_names hlast]
  simp only [hbehind, hbefore, hdots, ne_eq, not_false_eq_true, and_self, if_true,
    List.reverse_reverse, String.ofList_toList]

/-- A path with an extension ends in a name, and in none that stands for a directory. -/
lemma exists_name_of_extension (h : p.extension ≠ "") :
    ∃ name, p.names.getLast? = some name ∧ name ≠ "." ∧ name ≠ ".." := by
  rw [extension] at h
  split at h
  · exact absurd rfl h
  · next name hname =>
    refine ⟨name, hname, ?_, ?_⟩
    · rintro rfl
      exact h rfl
    · rintro rfl
      exact h rfl

end Path

variable {d d' : Disk} {p q : Path} {text : String} {place : Place}

/-! ### Places -/

/-- A path leads somewhere if it can be written, is not empty, and its names can be followed. -/
lemma place_eq_ok : d.place p = .ok place ↔
    p.flaw? = none ∧ p.text.isEmpty = false ∧
      d.follow (d.startOf p) p.names.reverse = .ok place := by
  rw [Disk.place]
  cases hflaw : p.flaw? with
  | some fault => simp
  | none => cases hempty : p.text.isEmpty <;> simp

/-- A place begins with the last name of a path to it. -/
lemma head?_of_place {name : String} (hplace : d.place p = .ok place)
    (hname : p.names.getLast? = some name) (hdot : name ≠ ".") (hdots : name ≠ "..") :
    place.head? = some name := by
  obtain ⟨outer, houter⟩ := List.getLast?_eq_some_iff.1 hname
  obtain ⟨-, -, hfollow⟩ := place_eq_ok.1 hplace
  simp only [houter, List.reverse_concat', follow, bind_eq_ok, hdot, hdots, if_false] at hfollow
  obtain ⟨inside, -, -, -, hlast⟩ := hfollow
  split_ifs at hlast
  obtain rfl := Except.ok.inj hlast
  rfl

/-- **Paths with an extension that lead to one place have the same extension.** -/
theorem extension_eq_of_place (hp : d.place p = .ok place) (hq : d.place q = .ok place)
    (hpe : p.extension ≠ "") (hqe : q.extension ≠ "") : p.extension = q.extension := by
  obtain ⟨name, hname, hdot, hdots⟩ := Path.exists_name_of_extension hpe
  obtain ⟨name', hname', hdot', hdots'⟩ := Path.exists_name_of_extension hqe
  refine Path.extension_congr ?_
  rw [hname, hname', ← head?_of_place hp hname hdot hdots, ← head?_of_place hq hname' hdot' hdots']

lemma enter_eq_ok {u : Unit} : d.enter place = .ok u ↔ d.node? place = some .directory := by
  rw [enter]
  split <;> simp_all

section SameDirectories

variable (hnode : ∀ place, d'.node? place = some .directory ↔ d.node? place = some .directory)

include hnode

/-- Where names lead is a matter of the directories. -/
lemma follow_eq_ok_congr {start : Place} {names : List String} :
    d'.follow start names = .ok place ↔ d.follow start names = .ok place := by
  induction names generalizing place with
  | nil => exact Iff.rfl
  | cons name outer ih => simp only [follow, bind_eq_ok, ih, enter_eq_ok, hnode]

/-- And so is where paths lead. -/
lemma place_eq_ok_congr (hhere : d'.here = d.here) :
    d'.place p = .ok place ↔ d.place p = .ok place := by
  simp only [place_eq_ok, startOf, hhere, follow_eq_ok_congr hnode]

end SameDirectories

/-! ### Files -/

lemma follow_error {start : Place} {names : List String} {fault : IoFault}
    (h : d.follow start names = .error fault) :
    fault = .notFound ∨ fault = .notADirectory ∨ fault = .nameTooLong := by
  induction names with
  | nil => cases h
  | cons name outer ih =>
    rw [follow] at h
    cases hinside : d.follow start outer with
    | error inner =>
      rw [hinside, error_bind] at h
      obtain rfl := Except.error.inj h
      exact ih hinside
    | ok place =>
      rw [hinside, ok_bind, enter] at h
      cases hnode : d.node? place with
      | none => simp_all [error_bind]
      | some node =>
        cases node with
        | file content => simp_all [error_bind]
        | directory =>
          simp only [hnode, ok_bind] at h
          split_ifs at h
          · cases h
          · cases h
          · obtain rfl := Except.error.inj h
            exact Or.inr (Or.inr rfl)
          · cases h

/-- The faults for which a place is not found: no file is opened for it. -/
lemma place_error {fault : IoFault} (h : d.place p = .error fault) :
    fault = .notFound ∨ fault = .notADirectory ∨ fault = .nameTooLong ∨ fault = .nulInPath := by
  rw [Disk.place] at h
  split at h
  · next flaw hflaw =>
    obtain rfl := Except.error.inj h
    rw [Path.flaw?] at hflaw
    split_ifs at hflaw <;> simp_all
  · split at h
    · simp_all
    · rcases follow_error h with h | h | h <;> simp [h]

/-- A file is where the path leads, and no slash is behind its name. -/
lemma isFile_read : View.isFile d.read p = true ↔
    ∃ place content, d.place p = .ok place ∧ d.node? place = some (.file content) ∧
      p.endsInSlash = false := by
  rw [View.isFile, read]
  cases hplace : d.place p with
  | error fault =>
    rcases place_error hplace with rfl | rfl | rfl | rfl <;> simp [error_bind]
  | ok place =>
    rw [ok_bind]
    cases hnode : d.node? place with
    | none => simp [hnode, throw_eq_error]
    | some node =>
      cases node with
      | directory => simp [hnode, throw_eq_error]
      | file content =>
        cases hslash : p.endsInSlash <;> cases content <;> simp [hnode, throw_eq_error, pure_eq_ok]

/-- Something is where the path leads, and a slash is behind its name only if it is a directory. -/
lemma has_read : View.has d.read p = true ↔
    ∃ place node, d.place p = .ok place ∧ d.node? place = some node ∧
      (node = .directory ∨ p.endsInSlash = false) := by
  rw [View.has, View.isFile, read]
  cases hplace : d.place p with
  | error fault =>
    rcases place_error hplace with rfl | rfl | rfl | rfl <;> simp [error_bind]
  | ok place =>
    rw [ok_bind]
    cases hnode : d.node? place with
    | none => simp [hnode, throw_eq_error]
    | some node =>
      cases node with
      | directory => simp [hnode, throw_eq_error]
      | file content =>
        cases hslash : p.endsInSlash <;> cases content <;> simp [hnode, throw_eq_error, pure_eq_ok]

/-- What it takes to write, and what a write does. -/
lemma write_eq_ok : d.write p text = .ok d' ↔
    ∃ place, d.place p = .ok place ∧ p.endsInSlash = false ∧ d.node? place ≠ some .directory ∧
      d' = d.put place (.file (.text text)) := by
  rw [write, bind_eq_ok]
  refine exists_congr fun place => and_congr_right fun _ => ?_
  cases hslash : p.endsInSlash with
  | true => simp [throw_eq_error, error_bind]
  | false =>
    cases hnode : d.node? place with
    | none => simp [pure_eq_ok, eq_comm]
    | some node => cases node <;> simp [throw_eq_error, pure_eq_ok, eq_comm]

lemma node?_put {node : Node} (hplace : place ≠ []) (other : Place) :
    (d.put place node).node? other = if other = place then some node else d.node? other := by
  cases other with
  | nil =>
    rw [if_neg hplace.symm]
    rfl
  | cons name outer => rfl

/-- What a write leaves: the text at one place, which was no directory, and the rest as it was. -/
lemma exists_place_of_write (hwrite : d.write p text = .ok d') :
    ∃ place, d.place p = .ok place ∧ p.endsInSlash = false ∧ d.node? place ≠ some .directory ∧
      d'.here = d.here ∧ ∀ other, d'.node? other =
        if other = place then some (.file (.text text)) else d.node? other := by
  obtain ⟨place, hplace, hslash, hnode, rfl⟩ := write_eq_ok.1 hwrite
  refine ⟨place, hplace, hslash, hnode, rfl, node?_put ?_⟩
  rintro rfl
  exact hnode rfl

/-- A write leaves the directories as they are. -/
lemma directory_write (hwrite : d.write p text = .ok d') (other : Place) :
    d'.node? other = some .directory ↔ d.node? other = some .directory := by
  obtain ⟨written, -, -, hnode, -, hput⟩ := exists_place_of_write hwrite
  rw [hput]
  split
  · next h => simp [h, hnode]
  · exact Iff.rfl

/-- A write leads no path elsewhere. -/
theorem place_write (hwrite : d.write p text = .ok d') :
    d'.place q = .ok place ↔ d.place q = .ok place := by
  obtain ⟨written, -, -, -, hhere, -⟩ := exists_place_of_write hwrite
  exact place_eq_ok_congr (directory_write hwrite) hhere

/-- What is written is read at every path to its place. -/
theorem read_write (hwrite : d.write p text = .ok d') (hplace : d.place q = d.place p)
    (hslash : q.endsInSlash = false) : d'.read q = .ok text := by
  obtain ⟨written, hwritten, -, -, -, hput⟩ := exists_place_of_write hwrite
  have hq : d'.place q = .ok written := (place_write hwrite).2 (hplace.trans hwritten)
  simp [read, hq, hput, hslash, pure_eq_ok]

lemma read_of_write (hwrite : d.write p text = .ok d') : d'.read p = .ok text := by
  obtain ⟨-, -, hslash, -⟩ := write_eq_ok.1 hwrite
  exact read_write hwrite rfl hslash

/-- Elsewhere everything is as it was. -/
lemma node?_of_write (hwrite : d.write p text = .ok d') (hne : d.place q ≠ d.place p)
    (hq : d'.place q = .ok place) : d.place q = .ok place ∧ d'.node? place = d.node? place := by
  obtain ⟨written, hwritten, -, -, -, hput⟩ := exists_place_of_write hwrite
  rw [place_write hwrite] at hq
  have hother : place ≠ written := by
    rintro rfl
    exact hne (hq.trans hwritten.symm)
  exact ⟨hq, by rw [hput, if_neg hother]⟩

/-- Elsewhere a write makes no file. -/
theorem isFile_of_write (hwrite : d.write p text = .ok d') (hplace : d.place q ≠ d.place p)
    (hfile : View.isFile d'.read q = true) : View.isFile d.read q = true := by
  obtain ⟨place, content, hq, hcontent, hslash⟩ := isFile_read.1 hfile
  obtain ⟨hbefore, hnode⟩ := node?_of_write hwrite hplace hq
  exact isFile_read.2 ⟨place, content, hbefore, hnode ▸ hcontent, hslash⟩

/-- Nor does it make anything else. -/
theorem has_of_write (hwrite : d.write p text = .ok d') (hplace : d.place q ≠ d.place p)
    (hhas : View.has d'.read q = true) : View.has d.read q = true := by
  obtain ⟨place, node, hq, hthere, hslash⟩ := has_read.1 hhas
  obtain ⟨hbefore, hnode⟩ := node?_of_write hwrite hplace hq
  exact has_read.2 ⟨place, node, hbefore, hnode ▸ hthere, hslash⟩

end Disk

end CmsTypings
