import RowStore.Pool

/-!
Pools seen through the pages in them: what making room, installing, changing and dropping pages does
to the page found under each identifier. Room is only ever made by dropping a clean page.
-/

set_option autoImplicit false

namespace RowStore.Pool

/-- Every page in the pool has a frame of its own, which was handed out before. -/
def Sound (pool : Pool) : Prop :=
  ∀ (page : PageId) (frame : Nat), pool.resident[page]? = some frame →
    frame < pool.nextFrame ∧ ∃ content, pool.frames[frame]? = some content ∧ content.id = page

theorem sound_new (capacity : Nat) (preference : Nat → Nat) : (new capacity preference).Sound := by
  intro page frame found
  simp [new] at found

theorem residentFrame?_new (capacity : Nat) (preference : Nat → Nat) (page : PageId) :
    (new capacity preference).residentFrame? page = none := by
  simp [residentFrame?, new]

theorem residentFrame?_eq_some {pool : Pool} {page : PageId} {frame : Nat} {content : Page} :
    pool.residentFrame? page = some (frame, content) ↔
      pool.resident[page]? = some frame ∧ pool.frames[frame]? = some content := by
  simp only [residentFrame?, Option.bind_eq_bind, Option.bind_eq_some_iff, Option.pure_def,
    Option.some.injEq, Prod.mk.injEq]
  constructor
  · intro both
    obtain ⟨found, resident, old, held, rfl, rfl⟩ := both
    exact ⟨resident, held⟩
  · intro both
    exact ⟨frame, both.1, content, both.2, rfl, rfl⟩

theorem Sound.resident_eq_none {pool : Pool} (sound : pool.Sound) {page : PageId}
    (absent : pool.residentFrame? page = none) : pool.resident[page]? = none := by
  cases resident : pool.resident[page]? with
  | none => rfl
  | some frame =>
      obtain ⟨_, content, held, _⟩ := sound page frame resident
      rw [residentFrame?_eq_some.mpr ⟨resident, held⟩] at absent
      cases absent

theorem isCached_of_residentFrame? {pool : Pool} {page : PageId} {frame : Nat} {content : Page}
    (found : pool.residentFrame? page = some (frame, content)) : pool.isCached page = true := by
  unfold isCached
  rw [Std.ExtTreeMap.contains_eq_isSome_getElem?, (residentFrame?_eq_some.mp found).1]
  rfl

theorem Sound.isCached_eq_false {pool : Pool} (sound : pool.Sound) {page : PageId}
    (absent : pool.residentFrame? page = none) : pool.isCached page = false := by
  unfold isCached
  rw [Std.ExtTreeMap.contains_eq_isSome_getElem?, sound.resident_eq_none absent]
  rfl

theorem Sound.id_eq {pool : Pool} (sound : pool.Sound) {page : PageId} {frame : Nat}
    {content : Page} (found : pool.residentFrame? page = some (frame, content)) :
    content.id = page := by
  obtain ⟨resident, held⟩ := residentFrame?_eq_some.mp found
  obtain ⟨_, other, heldOther, same⟩ := sound page frame resident
  rw [held] at heldOther
  cases heldOther
  exact same

/-! ### Writes noted -/

theorem mem_writtenBy_noteWrite {pool : Pool} {transaction other : TransactionId}
    {page onPage : PageId} :
    onPage ∈ (pool.noteWrite transaction page).writtenBy other ↔
      (other = transaction ∧ onPage = page) ∨ onPage ∈ pool.writtenBy other := by
  simp only [writtenBy, noteWrite, Std.ExtTreeSet.mem_toList, Std.ExtTreeMap.getD_insert,
    Std.LawfulEqCmp.compare_eq_iff_eq, @eq_comm _ transaction other]
  split
  · rename_i same
    subst same
    simp only [Std.ExtTreeSet.mem_insert, Std.LawfulEqCmp.compare_eq_iff_eq, true_and,
      @eq_comm _ page onPage]
  · rename_i different
    simp only [different, false_and, false_or]

theorem mem_writtenBy_forgetWrites {pool : Pool} {transaction other : TransactionId}
    {page : PageId} :
    page ∈ (pool.forgetWrites transaction).writtenBy other ↔
      other ≠ transaction ∧ page ∈ pool.writtenBy other := by
  simp only [writtenBy, forgetWrites, Std.ExtTreeSet.mem_toList, Std.ExtTreeMap.getD_erase,
    Std.LawfulEqCmp.compare_eq_iff_eq, @eq_comm _ transaction other]
  split
  · rename_i same
    simp [same]
  · rename_i different
    simp [different]

/-! ### Dropping pages -/

theorem residentFrame?_discard (pool : Pool) (page other : PageId) :
    (pool.discard page).residentFrame? other =
      if other = page then none else pool.residentFrame? other := by
  simp only [residentFrame?, discard, Std.ExtTreeMap.getElem?_erase,
    Std.LawfulEqCmp.compare_eq_iff_eq, @eq_comm _ page other]
  split <;> rfl

theorem Sound.discard {pool : Pool} (sound : pool.Sound) (page : PageId) :
    (pool.discard page).Sound := by
  intro other frame found
  simp only [Pool.discard, Std.ExtTreeMap.getElem?_erase,
    Std.LawfulEqCmp.compare_eq_iff_eq] at found
  split at found
  · cases found
  · exact sound other frame found

theorem residentFrame?_discardEach (pool : Pool) (pages : List PageId) (other : PageId) :
    (pool.discardEach pages).residentFrame? other =
      if other ∈ pages then none else pool.residentFrame? other := by
  unfold discardEach
  induction pages generalizing pool with
  | nil => simp
  | cons page rest ih =>
      rw [List.foldl_cons, ih, residentFrame?_discard]
      by_cases later : other ∈ rest
      · simp [later]
      · by_cases same : other = page
        · simp [same]
        · simp [later, same]

theorem Sound.discardEach {pool : Pool} (sound : pool.Sound) (pages : List PageId) :
    (pool.discardEach pages).Sound := by
  unfold Pool.discardEach
  induction pages generalizing pool with
  | nil => exact sound
  | cons page rest ih => exact ih (sound.discard page)

theorem discardEach_kept (pool : Pool) (pages : List PageId) :
    (pool.discardEach pages).locks = pool.locks ∧ ∀ transaction,
      (pool.discardEach pages).writtenBy transaction = pool.writtenBy transaction := by
  unfold discardEach
  induction pages generalizing pool with
  | nil => exact ⟨rfl, fun _ => rfl⟩
  | cons page rest ih => exact ih (pool.discard page)

/-! ### Frames -/

section

variable {pool : Pool} {page : PageId} {frame : Nat} {content : Page}

theorem Sound.residentFrame?_setFrame (sound : pool.Sound)
    (found : pool.residentFrame? page = some (frame, content)) (changed : Page) (other : PageId) :
    (pool.setFrame frame changed).residentFrame? other =
      if other = page then some (frame, changed) else pool.residentFrame? other := by
  obtain ⟨resident, held⟩ := residentFrame?_eq_some.mp found
  by_cases same : other = page
  · rw [if_pos same, same]
    refine residentFrame?_eq_some.mpr ⟨resident, ?_⟩
    exact Std.ExtTreeMap.getElem?_insert_self
  · rw [if_neg same]
    cases residentOther : pool.resident[other]? with
    | none => simp [residentFrame?, setFrame, residentOther]
    | some frameOther =>
        obtain ⟨_, old, heldOther, idOther⟩ := sound other frameOther residentOther
        have apart : frame ≠ frameOther := by
          intro shared
          rw [← shared, held] at heldOther
          cases heldOther
          exact same (idOther.symm.trans (sound.id_eq found))
        rw [residentFrame?_eq_some.mpr ⟨residentOther, heldOther⟩]
        refine residentFrame?_eq_some.mpr ⟨residentOther, ?_⟩
        simp only [setFrame, Std.ExtTreeMap.getElem?_insert, Std.LawfulEqCmp.compare_eq_iff_eq,
          if_neg apart]
        exact heldOther

theorem setFrame_self (found : pool.residentFrame? page = some (frame, content)) :
    pool.setFrame frame content = pool := by
  obtain ⟨_, held⟩ := residentFrame?_eq_some.mp found
  have same : pool.frames.insert frame content = pool.frames := by
    apply Std.ExtTreeMap.ext_getElem?
    intro other
    simp only [Std.ExtTreeMap.getElem?_insert, Std.LawfulEqCmp.compare_eq_iff_eq]
    split
    · rename_i isFrame
      rw [← isFrame, held]
    · rfl
  unfold Pool.setFrame
  rw [same]

/-- A frame may be changed whether or not it is in the pool, as long as it stays the same page's. -/
theorem Sound.setFrame_of_held (sound : pool.Sound) (held : pool.frames[frame]? = some content)
    {changed : Page} (same : changed.id = content.id) : (pool.setFrame frame changed).Sound := by
  intro other frameOther resident
  obtain ⟨bound, old, heldOther, idOther⟩ := sound other frameOther resident
  refine ⟨bound, ?_⟩
  simp only [Pool.setFrame, Std.ExtTreeMap.getElem?_insert, Std.LawfulEqCmp.compare_eq_iff_eq]
  by_cases shared : frame = frameOther
  · rw [if_pos shared]
    rw [← shared, held] at heldOther
    cases heldOther
    exact ⟨changed, rfl, same.trans idOther⟩
  · rw [if_neg shared]
    exact ⟨old, heldOther, idOther⟩

theorem residentFrame?_setFrame_of_found (found : pool.residentFrame? page = some (frame, content))
    (other : Nat) (changed : Page) :
    (pool.setFrame other changed).residentFrame? page =
      some (frame, if other = frame then changed else content) := by
  obtain ⟨resident, held⟩ := residentFrame?_eq_some.mp found
  refine residentFrame?_eq_some.mpr ⟨resident, ?_⟩
  simp only [Pool.setFrame, Std.ExtTreeMap.getElem?_insert, Std.LawfulEqCmp.compare_eq_iff_eq]
  split
  · rfl
  · exact held

theorem Sound.setFrame (sound : pool.Sound)
    (found : pool.residentFrame? page = some (frame, content)) {changed : Page}
    (same : changed.id = page) :
    (pool.setFrame frame changed).Sound :=
  sound.setFrame_of_held (residentFrame?_eq_some.mp found).2
    (same.trans (sound.id_eq found).symm)

end

/-! ### Capacity -/

def Fits (pool : Pool) : Prop :=
  pool.residentCount ≤ pool.capacity

/-- The second pool has the capacity of the first one, and keeps within it if the first one does. -/
structure Keeps (pool next : Pool) : Prop where
  capacity : next.capacity = pool.capacity
  fits : pool.Fits → next.Fits

theorem Keeps.refl (pool : Pool) : pool.Keeps pool :=
  ⟨rfl, fun fits => fits⟩

theorem Keeps.trans {first second third : Pool} (start : first.Keeps second)
    (rest : second.Keeps third) : first.Keeps third :=
  ⟨rest.capacity.trans start.capacity, fun fits => rest.fits (start.fits fits)⟩

structure Retains (pool next : Pool) : Prop where
  issued : pool.nextFrame ≤ next.nextFrame
  frames : ∀ frame content, frame < pool.nextFrame → pool.frames[frame]? = some content →
    ∃ changed, next.frames[frame]? = some changed ∧ changed.id = content.id

theorem Retains.of_frames {pool next : Pool} (issued : pool.nextFrame ≤ next.nextFrame)
    (frames : next.frames = pool.frames) : pool.Retains next := by
  refine ⟨issued, fun frame content _ held => ⟨content, ?_, rfl⟩⟩
  rw [frames]
  exact held

theorem Retains.refl (pool : Pool) : pool.Retains pool :=
  .of_frames (Nat.le_refl _) rfl

theorem Retains.trans {first second third : Pool} (start : first.Retains second)
    (rest : second.Retains third) : first.Retains third := by
  refine ⟨Nat.le_trans start.issued rest.issued, ?_⟩
  intro frame content bound held
  obtain ⟨between, heldBetween, same⟩ := start.frames frame content bound held
  obtain ⟨changed, heldThird, again⟩ :=
    rest.frames frame between (Nat.lt_of_lt_of_le bound start.issued) heldBetween
  exact ⟨changed, heldThird, again.trans same⟩

theorem retains_setFrame {pool : Pool} {frame : Nat} {content changed : Page}
    (held : pool.frames[frame]? = some content) (id : changed.id = content.id) :
    pool.Retains (pool.setFrame frame changed) := by
  refine ⟨Nat.le_refl _, ?_⟩
  intro other found _ heldOther
  simp only [setFrame, Std.ExtTreeMap.getElem?_insert, Std.LawfulEqCmp.compare_eq_iff_eq]
  by_cases same : frame = other
  · subst same
    cases held.symm.trans heldOther
    exact ⟨changed, if_pos rfl, id⟩
  · exact ⟨found, (if_neg same).trans heldOther, rfl⟩

/-! ### Making room -/

theorem mem_evictable {pool : Pool} {page : PageId} :
    page ∈ pool.evictable ↔ ∃ frame content,
      pool.residentFrame? page = some (frame, content) ∧ content.owner = none ∧
        pool.locks.exclusiveHolder? page = none := by
  simp only [evictable, List.mem_map, List.mem_filter, isEvictable, Bool.and_eq_true,
    Option.isNone_iff_eq_none, Option.any_eq_true, Prod.exists,
    Std.ExtTreeMap.mem_toList_iff_getElem?_eq_some]
  constructor
  · rintro ⟨onPage, frame, ⟨resident, free, content, held, clean⟩, rfl⟩
    refine ⟨frame, content, residentFrame?_eq_some.mpr ⟨resident, held⟩, ?_, free⟩
    simpa [Page.isDirty] using clean
  · rintro ⟨frame, content, found, clean, free⟩
    obtain ⟨resident, held⟩ := residentFrame?_eq_some.mp found
    exact ⟨page, frame, ⟨resident, free, content, held, by simp [Page.isDirty, clean]⟩, rfl⟩

/-- The second pool is the first one without some clean pages that no transaction has to itself, and
with one page that is found. -/
structure Takes (pool next : Pool) (page : PageId) (frame : Nat) (content : Page) : Prop where
  found : next.residentFrame? page = some (frame, content)
  others : ∀ other, other ≠ page → next.residentFrame? other = pool.residentFrame? other ∨
    next.residentFrame? other = none ∧ pool.locks.exclusiveHolder? other = none ∧
      ∀ held old, pool.residentFrame? other = some (held, old) → old.owner = none
  written : next.written = pool.written
  locks : next.locks = pool.locks
  sound : next.Sound
  keeps : pool.Keeps next
  retains : pool.Retains next

theorem Takes.refl {pool : Pool} (sound : pool.Sound) {page : PageId} {frame : Nat}
    {content : Page} (found : pool.residentFrame? page = some (frame, content)) :
    pool.Takes pool page frame content :=
  ⟨found, fun _ _ => Or.inl rfl, rfl, rfl, sound, .refl pool, .refl pool⟩

/-- What is in the pool now is the page that was taken, or was there before. -/
theorem Takes.cases {pool next : Pool} {page : PageId} {frame : Nat} {content : Page}
    (takes : pool.Takes next page frame content) {other : PageId} {held : Nat} {old : Page}
    (found : next.residentFrame? other = some (held, old)) :
    (other = page ∧ held = frame ∧ old = content) ∨
      pool.residentFrame? other = some (held, old) := by
  by_cases same : other = page
  · subst same
    cases takes.found.symm.trans found
    exact Or.inl ⟨rfl, rfl, rfl⟩
  · rcases takes.others other same with stays | ⟨goes, _⟩
    · exact Or.inr (stays.symm.trans found)
    · cases goes.symm.trans found

theorem Takes.stays {pool next : Pool} {page : PageId} {frame : Nat} {content : Page}
    (takes : pool.Takes next page frame content) {other : PageId} (different : other ≠ page)
    {held : Nat} {old : Page} (found : pool.residentFrame? other = some (held, old))
    (dirty : old.isDirty = true) : next.residentFrame? other = some (held, old) := by
  rcases takes.others other different with stays | ⟨_, _, clean⟩
  · exact stays.trans found
  · unfold Page.isDirty at dirty
    rw [clean held old found] at dirty
    cases dirty

theorem makeRoom_cases {pool roomy : Pool} (makes : pool.makeRoom = .ok roomy) :
    (pool.residentCount < pool.capacity ∧ roomy = pool) ∨
      ∃ victim frame content, pool.residentFrame? victim = some (frame, content) ∧
        content.owner = none ∧ pool.locks.exclusiveHolder? victim = none ∧
          roomy = { pool.discard victim with evictions := pool.evictions + 1 } := by
  unfold makeRoom at makes
  split at makes
  · rename_i room
    cases makes
    exact Or.inl ⟨room, rfl⟩
  · split at makes
    · cases makes
    · rename_i victim picked
      cases makes
      right
      obtain ⟨frame, content, found, clean, free⟩ :=
        mem_evictable.mp (List.mem_of_getElem? picked)
      exact ⟨victim, frame, content, found, clean, free, rfl⟩

private structure Thins (pool roomy : Pool) : Prop where
  others : ∀ other, roomy.residentFrame? other = pool.residentFrame? other ∨
    roomy.residentFrame? other = none ∧ pool.locks.exclusiveHolder? other = none ∧
      ∀ held old, pool.residentFrame? other = some (held, old) → old.owner = none
  sound : roomy.Sound
  frames : roomy.frames = pool.frames
  nextFrame : roomy.nextFrame = pool.nextFrame
  written : roomy.written = pool.written
  locks : roomy.locks = pool.locks

private theorem thins_makeRoom {pool roomy : Pool} (sound : pool.Sound)
    (makes : pool.makeRoom = .ok roomy) : pool.Thins roomy := by
  rcases makeRoom_cases makes with ⟨_, rfl⟩ | ⟨victim, frame, content, found, clean, free, rfl⟩
  · exact ⟨fun _ => Or.inl rfl, sound, rfl, rfl, rfl, rfl⟩
  · refine ⟨?_, sound.discard victim, rfl, rfl, rfl, rfl⟩
    intro other
    have dropped := pool.residentFrame?_discard victim other
    by_cases same : other = victim
    · right
      rw [if_pos same] at dropped
      refine ⟨dropped, by rw [same]; exact free, ?_⟩
      intro held old foundOld
      rw [same, found] at foundOld
      cases foundOld
      exact clean
    · left
      rw [if_neg same] at dropped
      exact dropped

/-- Room is made for a page that is not in the pool, and for no other. -/
private theorem thins_install {pool installed : Pool} (sound : pool.Sound) {page : PageId}
    {frame : Nat} (installs : pool.install page frame = .ok installed) :
    ∃ roomy, pool.Thins roomy ∧
      installed = { roomy with resident := roomy.resident.insert page frame } := by
  unfold install at installs
  cases cached : pool.isCached page with
  | true =>
      rw [cached] at installs
      cases installs
      exact ⟨pool, ⟨fun _ => Or.inl rfl, sound, rfl, rfl, rfl, rfl⟩, rfl⟩
  | false =>
      cases makes : pool.makeRoom with
      | error fault =>
          rw [cached, makes] at installs
          cases installs
      | ok roomy =>
          rw [cached, makes] at installs
          cases installs
          exact ⟨roomy, thins_makeRoom sound makes, rfl⟩

theorem resident_insert_of_ne {pool : Pool} {page other : PageId} (different : other ≠ page)
    (frame : Nat) : (pool.resident.insert page frame)[other]? = pool.resident[other]? := by
  simp only [Std.ExtTreeMap.getElem?_insert, Std.LawfulEqCmp.compare_eq_iff_eq,
    if_neg (Ne.symm different)]

private theorem capacity_makeRoom {pool roomy : Pool} (makes : pool.makeRoom = .ok roomy) :
    roomy.capacity = pool.capacity := by
  rcases makeRoom_cases makes with ⟨_, rfl⟩ | ⟨_, _, _, _, _, _, rfl⟩
  · rfl
  · rfl

theorem residentCount_discard_le (pool : Pool) (page : PageId) :
    (pool.discard page).residentCount ≤ pool.residentCount :=
  Std.ExtTreeMap.size_erase_le

theorem residentCount_discard {pool : Pool} {page : PageId} (cached : pool.isCached page = true) :
    (pool.discard page).residentCount < pool.residentCount := by
  unfold isCached at cached
  have some : 0 < pool.resident.size := by
    rw [← Std.ExtTreeMap.length_keys]
    exact List.length_pos_of_mem
      (Std.ExtTreeMap.mem_keys.mpr (Std.ExtTreeMap.mem_iff_contains.mpr cached))
  change (pool.resident.erase page).size < pool.resident.size
  rw [Std.ExtTreeMap.size_erase, if_pos cached]
  omega

private theorem residentCount_makeRoom {pool roomy : Pool} (fits : pool.Fits)
    (makes : pool.makeRoom = .ok roomy) : roomy.residentCount < pool.capacity := by
  rcases makeRoom_cases makes with ⟨room, rfl⟩ | ⟨victim, frame, content, found, _, _, rfl⟩
  · exact room
  · have fewer := residentCount_discard (isCached_of_residentFrame? found)
    exact Nat.lt_of_lt_of_le fewer fits

theorem keeps_install {pool installed : Pool} {page : PageId} {frame : Nat}
    (installs : pool.install page frame = .ok installed) : pool.Keeps installed := by
  unfold install at installs
  cases cached : pool.isCached page with
  | true =>
      rw [cached] at installs
      cases installs
      refine ⟨rfl, fun fits => ?_⟩
      unfold Fits residentCount at fits ⊢
      simpa [Std.ExtTreeMap.size_insert, Std.ExtTreeMap.mem_iff_contains.mpr cached] using fits
  | false =>
      rw [cached] at installs
      cases makes : pool.makeRoom with
      | error fault =>
          rw [makes] at installs
          cases installs
      | ok roomy =>
          rw [makes] at installs
          cases installs
          have capacity := capacity_makeRoom makes
          refine ⟨capacity, fun fits => ?_⟩
          have room := residentCount_makeRoom fits makes
          have grows := Std.ExtTreeMap.size_insert_le (t := roomy.resident) (k := page) (v := frame)
          unfold Fits residentCount at *
          change (roomy.resident.insert page frame).size ≤ roomy.capacity
          omega

theorem keeps_installNew {pool installed : Pool} {content : Page} {frame : Nat}
    (installs : pool.installNew content = .ok (installed, frame)) : pool.Keeps installed := by
  unfold installNew at installs
  cases roomy : pool.install content.id pool.nextFrame with
  | error fault =>
      rw [roomy] at installs
      cases installs
  | ok next =>
      rw [roomy] at installs
      cases installs
      obtain ⟨capacity, fits⟩ := keeps_install roomy
      exact ⟨capacity, fits⟩

theorem keeps_discard (pool : Pool) (page : PageId) : pool.Keeps (pool.discard page) :=
  ⟨rfl, fun fits => Nat.le_trans (pool.residentCount_discard_le page) fits⟩

theorem keeps_discardEach (pool : Pool) (pages : List PageId) :
    pool.Keeps (pool.discardEach pages) := by
  unfold discardEach
  induction pages generalizing pool with
  | nil => exact .refl pool
  | cons page rest ih => exact (pool.keeps_discard page).trans (ih (pool.discard page))

theorem residentCount_discardEach_le (pool : Pool) (pages : List PageId) :
    (pool.discardEach pages).residentCount ≤ pool.residentCount := by
  unfold discardEach
  induction pages generalizing pool with
  | nil => exact Nat.le_refl _
  | cons page rest ih =>
      exact Nat.le_trans (ih (pool.discard page)) (pool.residentCount_discard_le page)

theorem residentCount_discardEach {pool : Pool} {pages : List PageId} {page : PageId}
    (cached : pool.isCached page = true) (member : page ∈ pages) :
    (pool.discardEach pages).residentCount < pool.residentCount := by
  induction pages generalizing pool with
  | nil => cases member
  | cons first rest ih =>
      change ((pool.discard first).discardEach rest).residentCount < pool.residentCount
      by_cases same : page = first
      · subst same
        exact Nat.lt_of_le_of_lt (residentCount_discardEach_le _ rest)
          (residentCount_discard cached)
      · have later : page ∈ rest := (List.mem_cons.mp member).resolve_left same
        have still : (pool.discard first).isCached page = true := by
          unfold isCached Pool.discard at *
          rw [Std.ExtTreeMap.contains_erase, cached]
          simpa using Ne.symm same
        exact Nat.lt_of_lt_of_le (ih still later) (pool.residentCount_discard_le first)

/-- A frame that was handed out becomes the one of its page, and at most a clean page goes. -/
theorem takes_install {pool installed : Pool} (sound : pool.Sound) {frame : Nat} {content : Page}
    (issued : frame < pool.nextFrame) (held : pool.frames[frame]? = some content)
    (installs : pool.install content.id frame = .ok installed) :
    pool.Takes installed content.id frame content := by
  have keeps := keeps_install installs
  obtain ⟨roomy, thins, rfl⟩ := thins_install sound installs
  have heldStill : roomy.frames[frame]? = some content := by rw [thins.frames, held]
  constructor
  · exact residentFrame?_eq_some.mpr ⟨Std.ExtTreeMap.getElem?_insert_self, heldStill⟩
  · intro other different
    have same : Pool.residentFrame? { roomy with
        resident := roomy.resident.insert content.id frame } other =
          roomy.residentFrame? other := by
      unfold residentFrame?
      dsimp only
      rw [resident_insert_of_ne different]
    rcases thins.others other with stays | ⟨goes, clean⟩
    · exact Or.inl (same.trans stays)
    · exact Or.inr ⟨same.trans goes, clean⟩
  · exact thins.written
  · exact thins.locks
  · intro other frameOther resident
    by_cases same : other = content.id
    · subst same
      have mine : frameOther = frame :=
        Option.some.inj (resident.symm.trans Std.ExtTreeMap.getElem?_insert_self)
      subst mine
      exact ⟨Nat.lt_of_lt_of_eq issued thins.nextFrame.symm, content, heldStill, rfl⟩
    · exact thins.sound other frameOther ((resident_insert_of_ne same frame).symm.trans resident)
  · exact keeps
  · exact .of_frames (Nat.le_of_eq thins.nextFrame.symm) thins.frames

private theorem Sound.getElem?_frames_insert {pool : Pool} (sound : pool.Sound) {page : PageId}
    {frame held : Nat} (fresh : pool.nextFrame ≤ frame)
    (resident : pool.resident[page]? = some held) (content : Page) :
    (pool.frames.insert frame content)[held]? = pool.frames[held]? := by
  have bound := (sound page held resident).1
  simp only [Std.ExtTreeMap.getElem?_insert, Std.LawfulEqCmp.compare_eq_iff_eq,
    if_neg (Nat.ne_of_gt (Nat.lt_of_lt_of_le bound fresh))]

theorem Sound.residentFrame?_fresh {pool : Pool} (sound : pool.Sound) {frame : Nat}
    (fresh : pool.nextFrame ≤ frame) {page other : PageId} (different : other ≠ page)
    (content : Page) (upcoming : Nat) :
    Pool.residentFrame? { pool with
      resident := pool.resident.insert page frame
      frames := pool.frames.insert frame content
      nextFrame := upcoming } other = pool.residentFrame? other := by
  unfold residentFrame?
  dsimp only
  rw [resident_insert_of_ne different]
  cases resident : pool.resident[other]? with
  | none => rfl
  | some held =>
      simp only [Option.bind_eq_bind, Option.bind_some,
        sound.getElem?_frames_insert fresh resident]

/-- A page that was read comes into the pool, and at most a clean page goes. -/
theorem takes_installNew {pool installed : Pool} (sound : pool.Sound) {content : Page} {frame : Nat}
    (installs : pool.installNew content = .ok (installed, frame)) :
    pool.Takes installed content.id frame content := by
  have keeps := keeps_installNew installs
  unfold installNew at installs
  cases installing : pool.install content.id pool.nextFrame with
  | error fault =>
      rw [installing] at installs
      cases installs
  | ok next =>
      rw [installing] at installs
      cases installs
      obtain ⟨roomy, thins, rfl⟩ := thins_install sound installing
      have fresh : roomy.nextFrame ≤ pool.nextFrame := Nat.le_of_eq thins.nextFrame
      refine ⟨residentFrame?_eq_some.mpr
        ⟨Std.ExtTreeMap.getElem?_insert_self, Std.ExtTreeMap.getElem?_insert_self⟩, ?_,
        thins.written, thins.locks, ?_, keeps, ?_⟩
      · intro other different
        have same := thins.sound.residentFrame?_fresh fresh different content (pool.nextFrame + 1)
        rcases thins.others other with stays | ⟨goes, clean⟩
        · exact Or.inl (same.trans stays)
        · exact Or.inr ⟨same.trans goes, clean⟩
      · intro other held resident
        by_cases same : other = content.id
        · subst same
          have mine : held = pool.nextFrame :=
            Option.some.inj (resident.symm.trans Std.ExtTreeMap.getElem?_insert_self)
          rw [mine]
          exact ⟨Nat.lt_succ_self _, content, Std.ExtTreeMap.getElem?_insert_self, rfl⟩
        · have before := (resident_insert_of_ne same pool.nextFrame).symm.trans resident
          obtain ⟨bound, old, heldOld, id⟩ := thins.sound other held before
          refine ⟨Nat.lt_succ_of_lt (Nat.lt_of_lt_of_le bound fresh), old, ?_, id⟩
          exact (thins.sound.getElem?_frames_insert fresh before content).trans heldOld
      · refine ⟨Nat.le_succ _, ?_⟩
        intro held old bound heldOld
        refine ⟨old, ?_, rfl⟩
        simp only [setFrame, Std.ExtTreeMap.getElem?_insert, Std.LawfulEqCmp.compare_eq_iff_eq,
          if_neg (Nat.ne_of_gt bound), thins.frames]
        exact heldOld

theorem install_resident {pool : Pool} {page : PageId} {frame : Nat} {content : Page}
    (found : pool.residentFrame? page = some (frame, content)) :
    pool.install page frame = .ok pool := by
  obtain ⟨resident, held⟩ := residentFrame?_eq_some.mp found
  have cached := isCached_of_residentFrame? found
  have same : pool.resident.insert page frame = pool.resident := by
    apply Std.ExtTreeMap.ext_getElem?
    intro other
    simp only [Std.ExtTreeMap.getElem?_insert, Std.LawfulEqCmp.compare_eq_iff_eq]
    split
    · rename_i isPage
      rw [← isPage, resident]
    · rfl
  unfold install
  rw [cached]
  simp only [if_true, pure, Except.pure, bind, Except.bind, same]

end RowStore.Pool
