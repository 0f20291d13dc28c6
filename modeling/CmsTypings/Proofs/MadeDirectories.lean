import CmsTypings.Proofs.Places

/-!
What making directories does to a disk.

Directories are made only where nothing is, and nothing is taken away, so a path that led to a place
still leads there. A path that led nowhere may lead somewhere afterwards, also to a file that has
been there all the time: by way of a new directory and out of it again. Together with the file that is written
into them, new directories leave every other file that could be read as it was.
-/

namespace CmsTypings

namespace Disk

variable {d d' made : Disk} {p q : Path} {text : String} {start place : Place}
  {names : List String} {result : Except IoFault Unit}

/-! ### More directories -/

/-- A disk has directories where another one has nothing, and is like it elsewhere. -/
structure Grows (d d' : Disk) : Prop where
  here_eq : d'.here = d.here
  node?_cases : ∀ place, d'.node? place = d.node? place ∨
    (d.node? place = none ∧ d'.node? place = some .directory)

lemma grows_refl (d : Disk) : Grows d d := ⟨rfl, fun _ => Or.inl rfl⟩

lemma Grows.trans {d'' : Disk} (h : Grows d d') (h' : Grows d' d'') : Grows d d'' where
  here_eq := h'.here_eq.trans h.here_eq
  node?_cases place := by
    rcases h.node?_cases place with hsame | ⟨hnone, hdir⟩
    · simpa [hsame] using h'.node?_cases place
    · rcases h'.node?_cases place with hsame' | ⟨hnone', -⟩
      · exact Or.inr ⟨hnone, hsame'.trans hdir⟩
      · simp [hdir] at hnone'

/-- What is there stays as it is. -/
lemma Grows.node?_eq {node : Node} (h : Grows d d') (hnode : d.node? place = some node) :
    d'.node? place = some node := by
  rcases h.node?_cases place with hsame | ⟨hnone, -⟩
  · exact hsame.trans hnode
  · simp [hnone] at hnode

lemma Grows.follow_eq_ok (h : Grows d d') (hfollow : d.follow start names = .ok place) :
    d'.follow start names = .ok place := by
  induction names generalizing place with
  | nil => exact hfollow
  | cons name outer ih =>
    rw [follow, bind_eq_ok] at hfollow ⊢
    obtain ⟨inside, hinside, hrest⟩ := hfollow
    obtain ⟨u, henter, hname⟩ := bind_eq_ok.1 hrest
    have henter' : d'.enter inside = .ok u := enter_eq_ok.2 (h.node?_eq (enter_eq_ok.1 henter))
    exact ⟨inside, ih hinside, bind_eq_ok.2 ⟨u, henter', hname⟩⟩

/-- Paths lead where they led before. -/
lemma Grows.place_eq_ok (h : Grows d d') (hplace : d.place p = .ok place) :
    d'.place p = .ok place := by
  have hstart : d'.startOf p = d.startOf p := by rw [startOf, startOf, h.here_eq]
  obtain ⟨hflaw, hempty, hfollow⟩ := Disk.place_eq_ok.1 hplace
  exact Disk.place_eq_ok.2 ⟨hflaw, hempty, hstart ▸ h.follow_eq_ok hfollow⟩

/-! ### Making directories -/

/-- What making a directory leaves: a directory where the names lead and nothing was, and the rest as
it was. -/
lemma exists_place_of_makeDirectory (h : d.makeDirectory start names = .ok d') :
    ∃ place, d.follow start names = .ok place ∧ d.node? place = none ∧ d'.here = d.here ∧
      ∀ other, d'.node? other = if other = place then some .directory else d.node? other := by
  rw [makeDirectory, bind_eq_ok] at h
  obtain ⟨place, hplace, h⟩ := h
  cases hnode : d.node? place with
  | some node => simp [hnode, throw_eq_error] at h
  | none =>
    simp only [hnode, pure_eq_ok, Except.ok.injEq] at h
    subst h
    have hroot : place ≠ [] := by
      rintro rfl
      simp [node?] at hnode
    exact ⟨place, hplace, hnode, rfl, node?_put hroot⟩

lemma ensureDirectory_cases (h : d.ensureDirectory start names = (d', result)) :
    d' = d ∨ d.makeDirectory start names = .ok d' := by
  rw [ensureDirectory] at h
  split at h
  · next hmade =>
    obtain ⟨rfl, -⟩ := Prod.mk.inj h
    exact Or.inr hmade
  · obtain ⟨rfl, -⟩ := Prod.mk.inj h
    exact Or.inl rfl

lemma grows_makeDirectory (h : d.makeDirectory start names = .ok d') : Grows d d' := by
  obtain ⟨place, -, hnode, hhere, hput⟩ := exists_place_of_makeDirectory h
  refine ⟨hhere, fun other => ?_⟩
  rw [hput]
  split
  · next heq => exact Or.inr ⟨heq ▸ hnode, rfl⟩
  · exact Or.inl rfl

lemma grows_ensureDirectory (h : d.ensureDirectory start names = (d', result)) : Grows d d' := by
  rcases ensureDirectory_cases h with rfl | hmade
  · exact grows_refl d'
  · exact grows_makeDirectory hmade

/-- Whatever comes of it, making directories only adds directories. -/
lemma grows_ensureDirectories (h : d.ensureDirectories start names = (d', result)) :
    Grows d d' := by
  induction names generalizing d' result with
  | nil =>
    obtain ⟨rfl, -⟩ := Prod.mk.inj h
    exact grows_refl d
  | cons name outer ih =>
    rw [ensureDirectories] at h
    split at h
    · split at h
      · next houter => exact (ih houter).trans (grows_ensureDirectory h)
      · next houter =>
        obtain ⟨rfl, -⟩ := Prod.mk.inj h
        exact ih houter
    · exact grows_ensureDirectory h

/-- Writing a file ends at a flaw of its path, at the directories on its way or at the file itself. -/
lemma writeWithin_steps (h : d.writeWithin p text = (d', result)) :
    (∃ fault, result = .error fault ∧ d' = d) ∨
      ∃ made done, d.ensureDirectories (d.startOf p) p.names.reverse.tail = (made, done) ∧
        ((∃ fault, result = .error fault ∧ d' = made) ∨
          (result = .ok () ∧ made.write p text = .ok d')) := by
  rw [writeWithin] at h
  split at h
  · obtain ⟨rfl, rfl⟩ := Prod.mk.inj h
    exact Or.inl ⟨_, rfl, rfl⟩
  · split at h
    · next hdirs =>
      obtain ⟨rfl, rfl⟩ := Prod.mk.inj h
      exact Or.inr ⟨_, _, hdirs, Or.inl ⟨_, rfl, rfl⟩⟩
    · next hdirs =>
      split at h
      · next hwrite =>
        obtain ⟨rfl, rfl⟩ := Prod.mk.inj h
        exact Or.inr ⟨_, _, hdirs, Or.inr ⟨rfl, hwrite⟩⟩
      · obtain ⟨rfl, rfl⟩ := Prod.mk.inj h
        exact Or.inr ⟨_, _, hdirs, Or.inl ⟨_, rfl, rfl⟩⟩

/-- A file is written once the directories on its way are made; till then only directories are. -/
lemma writeWithin_cases (h : d.writeWithin p text = (d', result)) :
    (∃ fault, result = .error fault ∧ Grows d d') ∨
      (result = .ok () ∧ ∃ made, Grows d made ∧ made.write p text = .ok d') := by
  rcases writeWithin_steps h with
    ⟨fault, hresult, rfl⟩ | ⟨made, done, hdirs, ⟨fault, hresult, rfl⟩ | ⟨hresult, hwrite⟩⟩
  · exact Or.inl ⟨fault, hresult, grows_refl d'⟩
  · exact Or.inl ⟨fault, hresult, grows_ensureDirectories hdirs⟩
  · exact Or.inr ⟨hresult, made, grows_ensureDirectories hdirs, hwrite⟩

/-! ### Directories that stand -/

/-- On the way to a place all directories stand. -/
lemma ensureDirectories_of_follow (h : d.follow start names = .ok place) :
    d.ensureDirectories start names.tail = (d, .ok ()) := by
  rcases names with _ | ⟨name, _ | ⟨inner, outer⟩⟩
  · rfl
  · rfl
  · rw [follow, bind_eq_ok] at h
    obtain ⟨inside, hinside, hrest⟩ := h
    obtain ⟨u, henter, -⟩ := bind_eq_ok.1 hrest
    have hdir : d.node? inside = some .directory := enter_eq_ok.1 henter
    have hmake : d.makeDirectory start (inner :: outer) = .error .exists := by
      simp [makeDirectory, hinside, hdir, ok_bind, throw_eq_error]
    have hstands : d.isDirectory start (inner :: outer) = true := by
      simp [isDirectory, hinside, hdir]
    simp [List.tail_cons, ensureDirectories, ensureDirectory, hmake, hstands]

/-- Nothing is made on the way to a path that leads to a place. -/
lemma writeWithin_cases_of_place (hplace : d.place p = .ok place)
    (h : d.writeWithin p text = (d', result)) : d' = d ∨ d.write p text = .ok d' := by
  obtain ⟨hflaw, -, hfollow⟩ := place_eq_ok.1 hplace
  simp only [writeWithin, hflaw, ensureDirectories_of_follow hfollow] at h
  split at h
  · next hwrite =>
    obtain ⟨rfl, -⟩ := Prod.mk.inj h
    exact Or.inr hwrite
  · obtain ⟨rfl, -⟩ := Prod.mk.inj h
    exact Or.inl rfl

/-! ### A file inside new directories -/

section Written

variable (hgrows : Grows d made) (hwrite : made.write p text = .ok d')

include hgrows hwrite

lemma place_writeWithin (hplace : d.place q = .ok place) : d'.place q = .ok place :=
  (place_write hwrite).2 (hgrows.place_eq_ok hplace)

/-- A file that could be read is read as before, unless it is the one that was written. -/
theorem read_writeWithin (hfile : View.isFile d.read q = true)
    (hne : d'.place q ≠ d'.place p) : d'.read q = d.read q := by
  obtain ⟨place, content, hplace, hnode, -⟩ := isFile_read.1 hfile
  obtain ⟨written, hwritten, -, -, -, hput⟩ := exists_place_of_write hwrite
  have hplace' := place_writeWithin hgrows hwrite hplace
  have hother : place ≠ written := by
    rintro rfl
    exact hne (hplace'.trans ((place_write hwrite).2 hwritten).symm)
  have hnode' : d'.node? place = some (.file content) := by
    rw [hput, if_neg hother, hgrows.node?_eq hnode]
  simp only [read, hplace, hplace', ok_bind, hnode, hnode']

/-- Where something was, something still is. -/
theorem has_writeWithin (h : View.has d.read q = true) : View.has d'.read q = true := by
  obtain ⟨place, node, hplace, hnode, hslash⟩ := has_read.1 h
  obtain ⟨written, -, -, hfree, -, hput⟩ := exists_place_of_write hwrite
  have hplace' := place_writeWithin hgrows hwrite hplace
  have hmade := hgrows.node?_eq hnode
  rw [has_read]
  by_cases hother : place = written
  · subst hother
    have hnofolder : node ≠ .directory := by
      rintro rfl
      exact hfree hmade
    exact ⟨place, .file (.text text), hplace', by rw [hput, if_pos rfl],
      Or.inr (hslash.resolve_left hnofolder)⟩
  · exact ⟨place, node, hplace', by rw [hput, if_neg hother, hmade], hslash⟩

end Written

end Disk

end CmsTypings
