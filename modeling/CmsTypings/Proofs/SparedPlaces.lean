import CmsTypings.Proofs.MadeDirectories

/-!
What is spared when a file is written.

To write a file, directories are made where the names on its path lead and nothing is yet, and then
one place gets the text. Nothing else becomes of a disk: every other file stays as it is, no
directory is lost, and none is made off the way. If the file cannot be written, no file has changed.
-/

namespace CmsTypings

namespace Disk

variable {d d' made : Disk} {p : Path} {text : String} {start place : Place} {names : List String}
  {result : Except IoFault Unit}

/-- The place is one to which the names on a path lead before the last of them. -/
def OnWay (d : Disk) (p : Path) (place : Place) : Prop :=
  ∃ outer, outer <:+ p.names.reverse.tail ∧ outer ≠ [] ∧
    d.follow (d.startOf p) outer = .ok place

/-- Two disks hold the same files. -/
def SameFiles (d d' : Disk) : Prop :=
  ∀ place content, d'.node? place = some (.file content) ↔ d.node? place = some (.file content)

/-- Of what was on a disk everything is left but the file at a path, and of what was not, only that
file and directories on the way to it have come. -/
structure Spares (d d' : Disk) (p : Path) : Prop where
  here_eq : d'.here = d.here
  files : ∀ place content, d'.place p ≠ .ok place →
    (d'.node? place = some (.file content) ↔ d.node? place = some (.file content))
  kept : ∀ place, d.node? place = some .directory → d'.node? place = some .directory
  made : ∀ place, d'.node? place = some .directory →
    d.node? place = some .directory ∨ (d.node? place = none ∧ OnWay d' p place)

lemma sameFiles_refl (d : Disk) : SameFiles d d := fun _ _ => Iff.rfl

lemma spares_refl (d : Disk) (p : Path) : Spares d d p :=
  ⟨rfl, fun _ _ _ => Iff.rfl, fun _ h => h, fun _ h => Or.inl h⟩

/-- More directories are no more files. -/
lemma Grows.sameFiles (h : Grows d d') : SameFiles d d' := by
  intro place content
  rcases h.node?_cases place with hsame | ⟨hnone, hdir⟩
  · rw [hsame]
  · simp [hnone, hdir]

/-! ### Directories on the way -/

/-- A directory that was made is where the names lead. -/
lemma follow_of_ensureDirectory (h : d.ensureDirectory start names = (d', result))
    (hnone : d.node? place = none) (hmade : d'.node? place = some .directory) :
    d'.follow start names = .ok place := by
  rcases ensureDirectory_cases h with rfl | hmake
  · rw [hnone] at hmade
    cases hmade
  · obtain ⟨there, hthere, -, -, hput⟩ := exists_place_of_makeDirectory hmake
    have hsame : place = there := by
      by_contra hother
      rw [hput, if_neg hother, hnone] at hmade
      cases hmade
    rw [hsame]
    exact (grows_makeDirectory hmake).follow_eq_ok hthere

/-- Whatever comes of it, directories are made only where a beginning of the names leads. -/
lemma follow_of_ensureDirectories (h : d.ensureDirectories start names = (d', result))
    (hnone : d.node? place = none) (hmade : d'.node? place = some .directory) :
    ∃ outer, outer <:+ names ∧ outer ≠ [] ∧ d'.follow start outer = .ok place := by
  induction names generalizing d' result with
  | nil =>
    obtain ⟨rfl, -⟩ := Prod.mk.inj h
    rw [hnone] at hmade
    cases hmade
  | cons name outer ih =>
    have hwhole : ∀ {inner : Disk} {result : Except IoFault Unit},
        inner.ensureDirectory start (name :: outer) = (d', result) →
        inner.node? place = none →
        ∃ names, names <:+ name :: outer ∧ names ≠ [] ∧ d'.follow start names = .ok place :=
      fun hlast hnone => ⟨name :: outer, List.suffix_rfl, List.cons_ne_nil _ _,
        follow_of_ensureDirectory hlast hnone hmade⟩
    rw [ensureDirectories] at h
    split at h
    · split at h
      · next inner houter =>
        -- the directory is an outer one, or the last
        rcases (grows_ensureDirectories houter).node?_cases place with hsame | ⟨-, hdir⟩
        · exact hwhole h (hsame.trans hnone)
        · obtain ⟨names, hsuffix, hne, hfollow⟩ := ih houter hdir
          exact ⟨names, hsuffix.trans (List.suffix_cons name outer), hne,
            (grows_ensureDirectory h).follow_eq_ok hfollow⟩
      · next inner fault houter =>
        obtain ⟨rfl, -⟩ := Prod.mk.inj h
        obtain ⟨names, hsuffix, hne, hfollow⟩ := ih houter hmade
        exact ⟨names, hsuffix.trans (List.suffix_cons name outer), hne, hfollow⟩
    · exact hwhole h hnone

/-! ### Writing -/

lemma spares_ensureDirectories
    (h : d.ensureDirectories (d.startOf p) p.names.reverse.tail = (d', result)) :
    Spares d d' p := by
  have hgrows := grows_ensureDirectories h
  have hstart : d'.startOf p = d.startOf p := by rw [startOf, startOf, hgrows.here_eq]
  exact {
    here_eq := hgrows.here_eq
    files := fun place content _ => hgrows.sameFiles place content
    kept := fun place hdir => hgrows.node?_eq hdir
    made := by
      intro place hdir
      rcases hgrows.node?_cases place with hsame | ⟨hnone, -⟩
      · exact Or.inl (hsame ▸ hdir)
      · refine Or.inr ⟨hnone, ?_⟩
        rw [OnWay, hstart]
        exact follow_of_ensureDirectories h hnone hdir }

/-- A file that is written changes one place, and no directory. -/
lemma Spares.write (h : Spares d made p) (hwrite : made.write p text = .ok d') :
    Spares d d' p := by
  obtain ⟨written, hwritten, -, -, hhere, hput⟩ := exists_place_of_write hwrite
  have hplace : d'.place p = .ok written := (place_write hwrite).2 hwritten
  have hdir := directory_write hwrite
  have hstart : d'.startOf p = made.startOf p := by rw [startOf, startOf, hhere]
  exact {
    here_eq := hhere.trans h.here_eq
    files := by
      intro place content hother
      have hne : place ≠ written := fun hsame => hother (hsame ▸ hplace)
      have hother' : made.place p ≠ .ok place := fun hsame => hother ((place_write hwrite).2 hsame)
      rw [hput, if_neg hne]
      exact h.files place content hother'
    kept := fun place hthere => (hdir place).2 (h.kept place hthere)
    made := by
      intro place hthere
      refine (h.made place ((hdir place).1 hthere)).imp_right ?_
      rintro ⟨hnone, outer, hsuffix, hne, hfollow⟩
      refine ⟨hnone, outer, hsuffix, hne, ?_⟩
      rw [hstart]
      exact (follow_eq_ok_congr hdir).2 hfollow }

/-- **Writing a file spares everything else.** -/
theorem spares_writeWithin (h : d.writeWithin p text = (d', result)) : Spares d d' p := by
  rcases writeWithin_steps h with
    ⟨-, -, rfl⟩ | ⟨made, done, hdirs, ⟨-, -, rfl⟩ | ⟨-, hwrite⟩⟩
  · exact spares_refl d' p
  · exact spares_ensureDirectories hdirs
  · exact (spares_ensureDirectories hdirs).write hwrite

/-- A file that could not be written has left all files as they were. -/
theorem sameFiles_of_error {fault : IoFault} (h : d.writeWithin p text = (d', .error fault)) :
    SameFiles d d' := by
  rcases writeWithin_cases h with ⟨_, -, hgrows⟩ | ⟨hok, -⟩
  · exact hgrows.sameFiles
  · cases hok

end Disk

end CmsTypings
