import Mathlib.Logic.Function.Basic

/-!
# Registries of owned handles

One component hands out handles and knows, for each live handle, the name it was
made for. Another component remembers one handle per name and releases it through
that entry. The two records drift apart when a handle dies without its entry, when
an entry is overwritten, or when a dead handle is handed out again.

Two invariants say when they have not drifted apart. `Faithful`: a live handle found
under a name was made for that name, so releasing a name touches no other name's
handle. `Covering`: every live handle is found under the name it was made for, so
releasing a name leaves none of its handles. Both are characterised by what `release`
does, and for each the operation that can break it has an exact condition.
-/

universe u v

/-- The entry kept for each name, and the name each live handle was made for. -/
@[ext] structure Registry (Name : Type u) (Handle : Type v) where
  entry : Name → Option Handle
  owner : Handle → Option Name

namespace Registry

variable {Name : Type u} {Handle : Type v}

/-- A live handle found under a name was made for that name. -/
def Faithful (registry : Registry Name Handle) : Prop :=
  ∀ name handle maker, registry.entry name = some handle →
    registry.owner handle = some maker → maker = name

/-- Every live handle is found under its name, except for the excused ones. -/
def CoveringBut (excused : Name → Handle → Prop) (registry : Registry Name Handle) : Prop :=
  ∀ handle maker, registry.owner handle = some maker →
    registry.entry maker = some handle ∨ excused maker handle

/-- Every live handle is found under the name it was made for. -/
def Covering (registry : Registry Name Handle) : Prop :=
  registry.CoveringBut fun _ _ => False

theorem covering_iff {registry : Registry Name Handle} :
    registry.Covering ↔
      ∀ handle maker, registry.owner handle = some maker → registry.entry maker = some handle := by
  simp [Covering, CoveringBut]

theorem CoveringBut.weaken {excused weaker : Name → Handle → Prop}
    {registry : Registry Name Handle} (covering : registry.CoveringBut excused)
    (implies : ∀ name handle, excused name handle → weaker name handle) :
    registry.CoveringBut weaker :=
  fun handle maker made => (covering handle maker made).imp_right (implies maker handle)

section Monotone

variable {before after : Registry Name Handle}

/-- Dropping entries and handles keeps a registry faithful. -/
theorem Faithful.mono (faithful : before.Faithful)
    (entries : ∀ name handle, after.entry name = some handle → before.entry name = some handle)
    (owners : ∀ handle maker, after.owner handle = some maker → before.owner handle = some maker) :
    after.Faithful :=
  fun name handle maker found made =>
    faithful name handle maker (entries name handle found) (owners handle maker made)

/-- Dropping handles keeps a registry covering. -/
theorem CoveringBut.mono {excused : Name → Handle → Prop} (covering : before.CoveringBut excused)
    (entries : after.entry = before.entry)
    (owners : ∀ handle maker, after.owner handle = some maker → before.owner handle = some maker) :
    after.CoveringBut excused := by
  intro handle maker made
  rw [entries]
  exact covering handle maker (owners handle maker made)

end Monotone

variable [DecidableEq Name] [DecidableEq Handle]

/-- A handle is made for a name, without being entered yet. -/
def acquire (registry : Registry Name Handle) (name : Name) (handle : Handle) :
    Registry Name Handle :=
  { registry with owner := Function.update registry.owner handle (some name) }

/-- A handle is entered under a name, in place of what was there. -/
def enter (registry : Registry Name Handle) (name : Name) (handle : Handle) :
    Registry Name Handle :=
  { registry with entry := Function.update registry.entry name (some handle) }

/-- The handle found under a name dies, and the entry is dropped. -/
def release (registry : Registry Name Handle) (name : Name) : Registry Name Handle :=
  match registry.entry name with
  | none => registry
  | some handle =>
      { entry := Function.update registry.entry name none
        owner := Function.update registry.owner handle none }

variable {registry : Registry Name Handle} {name : Name} {handle : Handle}

theorem owner_of_release {other : Handle} {maker : Name}
    (made : (registry.release name).owner other = some maker) :
    registry.owner other = some maker ∧ registry.entry name ≠ some other := by
  simp only [release] at made
  split at made
  · next absent => simp [absent, made]
  · next found entered =>
      simp only [Function.update_apply] at made
      split at made
      · simp at made
      · next differs =>
          exact ⟨made, fun same => differs (Option.some.inj (same.symm.trans entered))⟩

theorem owner_release_of_ne {other : Handle} (absent : registry.entry name ≠ some other) :
    (registry.release name).owner other = registry.owner other := by
  simp only [release]
  split
  · rfl
  · next found entered =>
      have differs : other ≠ found := fun same => absent (same ▸ entered)
      simp [Function.update_of_ne differs]

theorem owner_release_entry (entered : registry.entry name = some handle) :
    (registry.release name).owner handle = none := by
  simp [release, entered]

theorem entry_of_release {other : Name}
    (entered : (registry.release name).entry other = some handle) :
    registry.entry other = some handle ∧ other ≠ name := by
  simp only [release] at entered
  split at entered
  · next absent => exact ⟨entered, fun same => by simp [same, absent] at entered⟩
  · simp only [Function.update_apply] at entered
    split at entered
    · simp at entered
    · next differs => exact ⟨entered, differs⟩

theorem entry_release_of_ne {other : Name} (differs : other ≠ name) :
    (registry.release name).entry other = registry.entry other := by
  simp only [release]
  split
  · rfl
  · simp [Function.update_of_ne differs]

/-- A registry is faithful exactly when releasing a name kills only handles made for it. -/
theorem faithful_iff_release_isolated :
    registry.Faithful ↔
      ∀ name handle maker, registry.owner handle = some maker →
        (registry.release name).owner handle = none → maker = name := by
  constructor
  · intro faithful name handle maker made gone
    by_cases entered : registry.entry name = some handle
    · exact faithful name handle maker entered made
    · rw [owner_release_of_ne entered, made] at gone
      simp at gone
  · intro isolated name handle maker entered made
    exact isolated name handle maker made (owner_release_entry entered)

/-- A registry is covering exactly when releasing a name leaves none of its handles. -/
theorem covering_iff_release_clears :
    registry.Covering ↔
      ∀ name handle, (registry.release name).owner handle ≠ some name := by
  rw [covering_iff]
  constructor
  · intro covering name handle left
    rcases owner_of_release left with ⟨made, absent⟩
    exact absent (covering handle name made)
  · intro clears handle maker made
    by_contra absent
    exact clears maker handle ((owner_release_of_ne absent).trans made)

omit [DecidableEq Name] in
/-- Making a handle keeps a registry faithful exactly when no other name has it entered. -/
theorem Faithful.acquire_iff (faithful : registry.Faithful) :
    (registry.acquire name handle).Faithful ↔
      ∀ other, registry.entry other = some handle → other = name := by
  constructor
  · intro kept other entered
    exact (kept other handle name entered (by simp [acquire])).symm
  · intro unentered other found maker entered made
    by_cases same : found = handle
    · subst same
      have maker_eq : name = maker := by simpa [acquire] using made
      rw [← maker_eq, unentered other entered]
    · exact faithful other found maker entered
        (by simpa [acquire, Function.update_of_ne same] using made)

omit [DecidableEq Handle] in
/-- Entering a handle under the name it was made for keeps a registry faithful. -/
theorem Faithful.enter (faithful : registry.Faithful)
    (own : ∀ maker, registry.owner handle = some maker → maker = name) :
    (registry.enter name handle).Faithful := by
  intro other found maker entered made
  by_cases same : other = name
  · subst same
    have found_eq : handle = found := by simpa [Registry.enter] using entered
    subst found_eq
    exact own maker made
  · exact faithful other found maker
      (by simpa [Registry.enter, Function.update_of_ne same] using entered) made

theorem Faithful.release (faithful : registry.Faithful) : (registry.release name).Faithful :=
  faithful.mono (fun _ _ entered => (entry_of_release entered).1)
    (fun _ _ made => (owner_of_release made).1)

omit [DecidableEq Name] in
/-- A handle made for a name is excused until it is entered. -/
theorem Covering.acquire (covering : registry.Covering) :
    (registry.acquire name handle).CoveringBut fun maker made => maker = name ∧ made = handle := by
  intro found maker made
  by_cases same : found = handle
  · subst same
    have maker_eq : name = maker := by simpa [Registry.acquire] using made
    exact Or.inr ⟨maker_eq.symm, rfl⟩
  · exact Or.inl (covering_iff.mp covering found maker
      (by simpa [Registry.acquire, Function.update_of_ne same] using made))

omit [DecidableEq Handle] in
/--
Entering the excused handle makes the registry covering exactly when the name has
no other live handle, since the entry that led to it is overwritten.
-/
theorem CoveringBut.enter_iff
    (covering : registry.CoveringBut fun maker made => maker = name ∧ made = handle) :
    (registry.enter name handle).Covering ↔
      ∀ other, registry.owner other = some name → other = handle := by
  rw [covering_iff]
  constructor
  · intro kept other made
    have entered := kept other name made
    simpa [Registry.enter, eq_comm] using entered
  · intro alone found maker made
    by_cases same : maker = name
    · subst same
      have found_eq : found = handle := alone found made
      simp [Registry.enter, found_eq]
    · rcases covering found maker made with entered | ⟨excused, -⟩
      · simpa [Registry.enter, Function.update_of_ne same] using entered
      · exact absurd excused same

theorem Covering.release (covering : registry.Covering) : (registry.release name).Covering := by
  rw [covering_iff] at covering ⊢
  intro found maker made
  rcases owner_of_release made with ⟨made, absent⟩
  have differs : maker ≠ name := fun same => absent (same ▸ covering found maker made)
  rw [entry_release_of_ne differs]
  exact covering found maker made

end Registry
