import RowStore.Proofs.Database.Rest
import RowStore.Proofs.Database.Room

/-!
Agreement: two databases that differ only in which clean pages they keep in memory. Pages with
changes are in both pools, and so are pages that a transaction has to itself or in neither, so that
both pools run out of room at once. Whatever is done to one page comes to the same in both.
-/

set_option autoImplicit false

namespace RowStore

/-! ### Locks -/

namespace LockTable

theorem exclusiveHolder?_eq_some {table : LockTable} {page : PageId} {holder : TransactionId} :
    table.exclusiveHolder? page = some holder ↔
      table.lockMode? holder page = some .exclusive :=
  Holders.modeOf?_eq_some_exclusive.symm

/-- A transaction that has a page to itself after another one gave back its locks had it before. -/
theorem exclusiveHolder?_of_releaseAll {table : LockTable} {transaction : TransactionId}
    {page : PageId} (alone : (table.releaseAll transaction).exclusiveHolder? page ≠ none) :
    table.exclusiveHolder? page ≠ none := by
  obtain ⟨holder, holds⟩ := Option.ne_none_iff_exists'.mp alone
  rw [exclusiveHolder?_eq_some, lockMode?_releaseAll] at holds
  split at holds
  · cases holds
  · rw [exclusiveHolder?_eq_some.mpr holds]
    exact Option.some_ne_none holder

end LockTable

/-! ### Pages that stay -/

namespace Pool

def unsaved? (pool : Pool) (page : PageId) : Option Page :=
  ((pool.residentFrame? page).map Prod.snd).filter Page.isDirty

def pinned (pool : Pool) : List PageId :=
  (pool.resident.toList.filter (fun entry => !pool.isEvictable entry.1 entry.2)).map
    (fun entry => entry.1)

section

variable {pool : Pool} {page : PageId}

theorem unsaved?_of_resident {frame : Nat} {content : Page}
    (found : pool.residentFrame? page = some (frame, content)) :
    pool.unsaved? page = if content.isDirty then some content else none := by
  unfold unsaved?
  rw [found, Option.map_some, Option.filter_some]

theorem unsaved?_of_absent (absent : pool.residentFrame? page = none) :
    pool.unsaved? page = none := by
  unfold unsaved?
  rw [absent]
  rfl

theorem unsaved?_of_vacant (absent : pool.resident[page]? = none) : pool.unsaved? page = none := by
  refine unsaved?_of_absent ?_
  unfold residentFrame?
  rw [absent]
  rfl

theorem unsaved?_eq_some {content : Page} :
    pool.unsaved? page = some content ↔
      (∃ frame, pool.residentFrame? page = some (frame, content)) ∧ content.isDirty = true := by
  unfold unsaved?
  cases pool.residentFrame? page with
  | none => simp
  | some entry =>
      rw [Option.map_some, Option.filter_eq_some_iff]
      constructor
      · rintro ⟨same, dirty⟩
        exact ⟨⟨entry.1, congrArg some (Prod.ext rfl (Option.some.inj same))⟩, dirty⟩
      · rintro ⟨⟨frame, same⟩, dirty⟩
        exact ⟨congrArg (Option.map Prod.snd) same, dirty⟩

theorem Sound.isCached_eq (sound : pool.Sound) :
    pool.isCached page = (pool.residentFrame? page).isSome := by
  cases found : pool.residentFrame? page with
  | none => exact sound.isCached_eq_false found
  | some entry => exact isCached_of_residentFrame? found

theorem Sound.mem_pinned (sound : pool.Sound) :
    page ∈ pool.pinned ↔ pool.isCached page = true ∧
      (pool.unsaved? page ≠ none ∨ pool.locks.exclusiveHolder? page ≠ none) := by
  simp only [pinned, List.mem_map, List.mem_filter, Std.ExtTreeMap.mem_toList_iff_getElem?_eq_some,
    Prod.exists, exists_and_right, exists_eq_right]
  constructor
  · rintro ⟨frame, resident, stays⟩
    obtain ⟨_, content, held, _⟩ := sound page frame resident
    have found := residentFrame?_eq_some.mpr ⟨resident, held⟩
    refine ⟨isCached_of_residentFrame? found, ?_⟩
    rw [unsaved?_of_resident found]
    unfold isEvictable at stays
    rw [held] at stays
    cases dirty : content.isDirty with
    | true => exact .inl (Option.some_ne_none content)
    | false =>
        right
        intro free
        rw [free] at stays
        simp [dirty] at stays
  · rintro ⟨cached, kept⟩
    obtain ⟨frame, content, found⟩ := sound.exists_of_isCached cached
    obtain ⟨resident, held⟩ := residentFrame?_eq_some.mp found
    refine ⟨frame, resident, ?_⟩
    rw [unsaved?_of_resident found] at kept
    unfold isEvictable
    rw [held]
    rcases kept with dirty | alone
    · cases dirtiness : content.isDirty with
      | true => simp [dirtiness]
      | false =>
          rw [dirtiness] at dirty
          exact absurd rfl dirty
    · obtain ⟨holder, holds⟩ := Option.ne_none_iff_exists'.mp alone
      simp [holds]

theorem nodup_pinned (pool : Pool) : pool.pinned.Nodup := by
  have distinct : (pool.resident.toList.map Prod.fst).Nodup := by
    rw [Std.ExtTreeMap.map_fst_toList_eq_keys]
    exact Std.ExtTreeMap.nodup_keys
  exact distinct.sublist (List.filter_sublist.map Prod.fst)

theorem length_pinned (pool : Pool) :
    pool.evictable.length + pool.pinned.length = pool.residentCount := by
  have parts := List.length_eq_length_filter_add (l := pool.resident.toList)
    (fun entry => pool.isEvictable entry.1 entry.2)
  rw [Std.ExtTreeMap.length_toList] at parts
  unfold evictable pinned residentCount
  rw [List.length_map, List.length_map]
  exact parts.symm

theorem Fits.room_or_full (fits : pool.Fits) :
    (pool.pinned.length < pool.capacity ∧
      (pool.residentCount < pool.capacity ∨ pool.evictable ≠ [])) ∨
    (pool.capacity ≤ pool.pinned.length ∧ pool.capacity ≤ pool.residentCount ∧
      pool.evictable = []) := by
  have parts := pool.length_pinned
  unfold Fits at fits
  by_cases few : pool.pinned.length < pool.capacity
  · refine .inl ⟨few, ?_⟩
    by_cases room : pool.residentCount < pool.capacity
    · exact .inl room
    · right
      intro stuck
      rw [stuck, List.length_nil] at parts
      omega
  · refine .inr ⟨by omega, by omega, List.length_eq_zero_iff.mp (by omega)⟩

end

theorem Takes.unsaved? {pool next : Pool} {page : PageId} {frame : Nat} {content : Page}
    (takes : pool.Takes next page frame content) {other : PageId} (different : other ≠ page) :
    next.unsaved? other = pool.unsaved? other := by
  rcases takes.others other different with stays | ⟨goes, _, clean⟩
  · unfold Pool.unsaved?
    rw [stays]
  · rw [unsaved?_of_absent goes]
    cases found : pool.residentFrame? other with
    | none => rw [unsaved?_of_absent found]
    | some entry =>
        rw [unsaved?_of_resident found]
        unfold Page.isDirty
        rw [clean entry.1 entry.2 found]
        rfl

theorem Takes.isCached {pool next : Pool} {page : PageId} {frame : Nat} {content : Page}
    (takes : pool.Takes next page frame content) (sound : pool.Sound) {other : PageId}
    (different : other ≠ page) (alone : pool.locks.exclusiveHolder? other ≠ none) :
    next.isCached other = pool.isCached other := by
  rcases takes.others other different with stays | ⟨_, free, _⟩
  · rw [takes.sound.isCached_eq, sound.isCached_eq, stays]
  · exact absurd free alone

theorem written_discardEach (pool : Pool) (pages : List PageId) :
    (pool.discardEach pages).written = pool.written := by
  unfold discardEach
  induction pages generalizing pool with
  | nil => rfl
  | cons page rest ih => exact ih (pool.discard page)

theorem Sound.unsaved?_setFrame {pool : Pool} (sound : pool.Sound) {page : PageId} {frame : Nat}
    {content : Page} (found : pool.residentFrame? page = some (frame, content)) (changed : Page)
    (other : PageId) :
    (pool.setFrame frame changed).unsaved? other =
      if other = page then if changed.isDirty then some changed else none
      else pool.unsaved? other := by
  have after := sound.residentFrame?_setFrame found changed other
  by_cases same : other = page
  · rw [if_pos same] at after ⊢
    exact unsaved?_of_resident after
  · rw [if_neg same] at after ⊢
    unfold Pool.unsaved?
    rw [after]

end Pool

/-! ### Agreement -/

namespace Database

/-- What is clean in the pool is as on the disk. -/
def Mirrors (database : Database) : Prop :=
  ∀ page frame content, database.pool.residentFrame? page = some (frame, content) →
    content.isDirty = false → database.diskPage? page = some content

theorem Isolated.mirrors {database start : Database} {journal : Journal}
    (isolated : database.Isolated start journal) : database.Mirrors := by
  intro page frame content found clean
  exact isolated.clean page frame content found
    (Option.isNone_iff_eq_none.mp (Option.isSome_eq_false_iff.mp clean))

/-- Two databases differ only in which pages they keep in memory that can be dropped. The page that
was locked last may be such a page in one of them. -/
structure Agrees (left right : Database) (locked : Option PageId) : Prop where
  catalog : left.catalog = right.catalog
  volume : left.volume = right.volume
  locks : left.pool.locks = right.pool.locks
  written : left.pool.written = right.pool.written
  capacity : left.pool.capacity = right.pool.capacity
  sound : left.pool.Sound ∧ right.pool.Sound
  fits : left.pool.Fits ∧ right.pool.Fits
  unsaved : ∀ page, left.pool.unsaved? page = right.pool.unsaved? page
  alone : ∀ page, locked ≠ some page → left.pool.locks.exclusiveHolder? page ≠ none →
    left.pool.isCached page = right.pool.isCached page

section

variable {left right : Database} {locked : Option PageId}

theorem Agrees.symm (agrees : left.Agrees right locked) : right.Agrees left locked where
  catalog := agrees.catalog.symm
  volume := agrees.volume.symm
  locks := agrees.locks.symm
  written := agrees.written.symm
  capacity := agrees.capacity.symm
  sound := agrees.sound.symm
  fits := agrees.fits.symm
  unsaved := fun page => (agrees.unsaved page).symm
  alone := by
    intro page unlocked alone
    rw [← agrees.locks] at alone
    exact (agrees.alone page unlocked alone).symm

theorem Agrees.diskPage? (agrees : left.Agrees right locked) (page : PageId) :
    left.diskPage? page = right.diskPage? page := by
  unfold Database.diskPage?
  rw [agrees.catalog, agrees.volume]

theorem Agrees.writtenBy (agrees : left.Agrees right locked) (transaction : TransactionId) :
    left.pool.writtenBy transaction = right.pool.writtenBy transaction := by
  unfold Pool.writtenBy
  rw [agrees.written]

theorem Agrees.noteAccess (agrees : left.Agrees right locked) (transaction : TransactionId)
    (page : PageId) (access : Access) :
    (left.noteAccess transaction page access).Agrees
      (right.noteAccess transaction page access) locked := by
  cases access with
  | read => exact agrees
  | write =>
      exact
        { agrees with
          written := by
            change left.pool.written.insert _ _ = right.pool.written.insert _ _
            rw [agrees.written] }

theorem Agrees.setVolume (agrees : left.Agrees right locked) (volume : Volume) :
    Agrees { left with volume := volume } { right with volume := volume } locked :=
  { agrees with volume := rfl }

theorem Agrees.setFrame (agrees : left.Agrees right locked) {page : PageId}
    {frameLeft frameRight : Nat} {contentLeft contentRight : Page}
    (foundLeft : left.pool.residentFrame? page = some (frameLeft, contentLeft))
    (foundRight : right.pool.residentFrame? page = some (frameRight, contentRight))
    {changed : Page} (id : changed.id = page) :
    (left.setFrame frameLeft changed).Agrees (right.setFrame frameRight changed) locked :=
  { agrees with
    sound := ⟨agrees.sound.1.setFrame foundLeft id, agrees.sound.2.setFrame foundRight id⟩
    unsaved := by
      intro other
      change (left.pool.setFrame frameLeft changed).unsaved? other =
        (right.pool.setFrame frameRight changed).unsaved? other
      rw [agrees.sound.1.unsaved?_setFrame foundLeft, agrees.sound.2.unsaved?_setFrame foundRight,
        agrees.unsaved] }

theorem Agrees.setLocks (agrees : left.Agrees right none) {locks : LockTable}
    {locked : Option PageId} (before : ∀ page, locked ≠ some page →
      locks.exclusiveHolder? page ≠ none → left.pool.locks.exclusiveHolder? page ≠ none) :
    (left.setLocks locks).Agrees (right.setLocks locks) locked :=
  { agrees with
    locks := rfl
    alone := fun page unlocked alone =>
      agrees.alone page (Option.some_ne_none page).symm (before page unlocked alone) }

/-! ### Loading -/

inductive Loads (left right : Database) (page : PageId) : Prop where
  | failed (fault : Fault) (failsLeft : left.load page = .error fault)
      (failsRight : right.load page = .error fault) (agrees : left.Agrees right none)
  | found {nextLeft nextRight : Database} {frameLeft frameRight : Nat} {content : Page}
      (loadsLeft : left.load page = .ok (nextLeft, frameLeft, content))
      (loadsRight : right.load page = .ok (nextRight, frameRight, content))
      (foundLeft : nextLeft.pool.residentFrame? page = some (frameLeft, content))
      (foundRight : nextRight.pool.residentFrame? page = some (frameRight, content))
      (agrees : nextLeft.Agrees nextRight none)

theorem Loads.symm {page : PageId} (loads : Loads left right page) : Loads right left page := by
  cases loads with
  | failed fault failsLeft failsRight agrees => exact .failed fault failsRight failsLeft agrees.symm
  | found loadsLeft loadsRight foundLeft foundRight agrees =>
      exact .found loadsRight loadsLeft foundRight foundLeft agrees.symm

theorem Agrees.taken (agrees : left.Agrees right locked) {page : PageId}
    (within : ∀ other, other ≠ page → locked ≠ some other) {poolLeft poolRight : Pool}
    {frameLeft frameRight : Nat} {content : Page}
    (takesLeft : left.pool.Takes poolLeft page frameLeft content)
    (takesRight : right.pool.Takes poolRight page frameRight content) :
    Agrees { left with pool := poolLeft } { right with pool := poolRight } none where
  catalog := agrees.catalog
  volume := agrees.volume
  locks := takesLeft.locks.trans (agrees.locks.trans takesRight.locks.symm)
  written := takesLeft.written.trans (agrees.written.trans takesRight.written.symm)
  capacity := takesLeft.keeps.capacity.trans
    (agrees.capacity.trans takesRight.keeps.capacity.symm)
  sound := ⟨takesLeft.sound, takesRight.sound⟩
  fits := ⟨takesLeft.keeps.fits agrees.fits.1, takesRight.keeps.fits agrees.fits.2⟩
  unsaved := by
    intro other
    by_cases same : other = page
    · rw [same]
      exact (Pool.unsaved?_of_resident takesLeft.found).trans
        (Pool.unsaved?_of_resident takesRight.found).symm
    · exact (takesLeft.unsaved? same).trans
        ((agrees.unsaved other).trans (takesRight.unsaved? same).symm)
  alone := by
    intro other _ alone
    dsimp only at alone ⊢
    by_cases same : other = page
    · rw [same, Pool.isCached_of_residentFrame? takesLeft.found,
        Pool.isCached_of_residentFrame? takesRight.found]
    · rw [takesLeft.locks] at alone
      rw [takesLeft.isCached agrees.sound.1 same alone,
        takesRight.isCached agrees.sound.2 same (agrees.locks ▸ alone)]
      exact agrees.alone other (within other same) alone

private theorem Agrees.loaded (agrees : left.Agrees right locked) {page : PageId}
    (within : ∀ other, other ≠ page → locked ≠ some other) {nextLeft nextRight : Database}
    {frameLeft frameRight : Nat} {content : Page}
    (loadsLeft : left.load page = .ok (nextLeft, frameLeft, content))
    (loadsRight : right.load page = .ok (nextRight, frameRight, content)) :
    Loads left right page := by
  obtain ⟨poolLeft, rfl, takesLeft, _⟩ := load_cases agrees.sound.1 loadsLeft
  obtain ⟨poolRight, rfl, takesRight, _⟩ := load_cases agrees.sound.2 loadsRight
  exact .found loadsLeft loadsRight takesLeft.found takesRight.found
    (agrees.taken within takesLeft takesRight)

/-- A page that is pinned in the one pool is so in the other one, unless it is the one that was
locked last. -/
private theorem Agrees.pinned (agrees : left.Agrees right locked) {page other : PageId}
    (within : ∀ other, other ≠ page → locked ≠ some other)
    (absent : right.pool.isCached page = false) (member : other ∈ right.pool.pinned) :
    other ∈ left.pool.pinned ∧ other ≠ page := by
  obtain ⟨cached, kept⟩ := agrees.sound.2.mem_pinned.mp member
  have different : other ≠ page := by
    rintro rfl
    rw [absent] at cached
    cases cached
  refine ⟨agrees.sound.1.mem_pinned.mpr ?_, different⟩
  rw [← agrees.unsaved, ← agrees.locks] at kept
  refine ⟨?_, kept⟩
  rcases kept with dirty | alone
  · obtain ⟨content, unsaved⟩ := Option.ne_none_iff_exists'.mp dirty
    obtain ⟨⟨frame, found⟩, _⟩ := Pool.unsaved?_eq_some.mp unsaved
    exact Pool.isCached_of_residentFrame? found
  · rw [agrees.alone other (within other different) alone]
    exact cached

/-- A page that is in the first pool only is clean, and there is room for it in the second one: the
first one has this page besides all that are pinned in the second one. -/
private theorem Agrees.load_of_resident (agrees : left.Agrees right locked)
    (mirrors : left.Mirrors) {page : PageId}
    (within : ∀ other, other ≠ page → locked ≠ some other) {frame : Nat} {content : Page}
    (found : left.pool.residentFrame? page = some (frame, content))
    (absent : right.pool.residentFrame? page = none) : Loads left right page := by
  have clean : content.isDirty = false := by
    have unsaved := agrees.unsaved page
    rw [Pool.unsaved?_of_resident found, Pool.unsaved?_of_absent absent] at unsaved
    cases dirty : content.isDirty with
    | false => rfl
    | true =>
        rw [dirty] at unsaved
        cases unsaved
  have onDisk := mirrors page frame content found clean
  rw [agrees.diskPage?] at onDisk
  have uncached := agrees.sound.2.isCached_eq_false absent
  have more : (page :: right.pool.pinned).length ≤ left.pool.residentCount := by
    apply Pool.length_le_residentCount
    · refine List.nodup_cons.mpr ⟨?_, right.pool.nodup_pinned⟩
      intro member
      exact (agrees.pinned within uncached member).2 rfl
    · intro other member
      rcases List.mem_cons.mp member with same | pinned
      · rw [same]
        exact Pool.isCached_of_residentFrame? found
      · exact (agrees.sound.1.mem_pinned.mp (agrees.pinned within uncached pinned).1).1
  have few : right.pool.pinned.length < right.pool.capacity := by
    have fits := agrees.fits.1
    unfold Pool.Fits at fits
    rw [agrees.capacity] at fits
    rw [List.length_cons] at more
    omega
  rcases agrees.fits.2.room_or_full with ⟨_, room⟩ | ⟨full, _⟩
  · obtain ⟨next, frameRight, loads⟩ := load_of_room agrees.sound.2 absent onDisk room
    exact agrees.loaded within (Database.load_of_resident found) loads
  · omega

/-- A page that is in neither pool cannot be locked by chance in one of them only. -/
private theorem Agrees.of_absent (agrees : left.Agrees right locked) {page : PageId}
    (within : ∀ other, other ≠ page → locked ≠ some other)
    (absentLeft : left.pool.residentFrame? page = none)
    (absentRight : right.pool.residentFrame? page = none) : left.Agrees right none :=
  { agrees with
    alone := by
      intro other _ alone
      by_cases same : other = page
      · rw [same, agrees.sound.1.isCached_eq_false absentLeft,
          agrees.sound.2.isCached_eq_false absentRight]
      · exact agrees.alone other (within other same) alone }

private theorem Agrees.load_of_unreadable (agrees : left.Agrees right locked) {page : PageId}
    (absentLeft : left.pool.residentFrame? page = none)
    (absentRight : right.pool.residentFrame? page = none)
    (unreadable : left.diskPage? page = none) :
    ∃ fault, left.load page = .error fault ∧ right.load page = .error fault := by
  unfold Database.load
  rw [absentLeft, absentRight, ← agrees.catalog, ← agrees.volume]
  cases registered : left.catalog.file page.table with
  | error fault => exact ⟨fault, rfl, rfl⟩
  | ok file =>
      cases read : file.readPage left.volume page with
      | error fault =>
          refine ⟨fault, ?_⟩
          simp only [bind, Except.bind, read, and_self]
      | ok content =>
          rw [diskPage?_eq_some.mpr ⟨file, registered, read⟩] at unreadable
          cases unreadable

private theorem Agrees.length_pinned_le (agrees : left.Agrees right locked) {page : PageId}
    (within : ∀ other, other ≠ page → locked ≠ some other)
    (absent : right.pool.isCached page = false) :
    right.pool.pinned.length ≤ left.pool.pinned.length :=
  right.pool.nodup_pinned.length_le_of_subset
    (fun _ member => (agrees.pinned within absent member).1)

/-- A page that is in neither pool comes into both or into neither, since as many pages are pinned
in the one as in the other. -/
private theorem Agrees.load_of_absent (agrees : left.Agrees right locked) {page : PageId}
    (within : ∀ other, other ≠ page → locked ≠ some other)
    (absentLeft : left.pool.residentFrame? page = none)
    (absentRight : right.pool.residentFrame? page = none) : Loads left right page := by
  have settled := agrees.of_absent within absentLeft absentRight
  cases onDisk : left.diskPage? page with
  | none =>
      obtain ⟨fault, failsLeft, failsRight⟩ :=
        agrees.load_of_unreadable absentLeft absentRight onDisk
      exact .failed fault failsLeft failsRight settled
  | some content =>
      have onDiskRight := (agrees.diskPage? page).symm.trans onDisk
      have soundLeft := agrees.sound.1
      have soundRight := agrees.sound.2
      have fewer := agrees.length_pinned_le within (soundRight.isCached_eq_false absentRight)
      have others := agrees.symm.length_pinned_le within (soundLeft.isCached_eq_false absentLeft)
      have capacity := agrees.capacity
      rcases agrees.fits.1.room_or_full with ⟨few, room⟩ | ⟨full, crowded, stuck⟩
      · rcases agrees.fits.2.room_or_full with ⟨_, roomRight⟩ | ⟨fullRight, _⟩
        · obtain ⟨_, _, loadsLeft⟩ := load_of_room soundLeft absentLeft onDisk room
          obtain ⟨_, _, loadsRight⟩ := load_of_room soundRight absentRight onDiskRight roomRight
          exact agrees.loaded within loadsLeft loadsRight
        · omega
      · have failsLeft := load_of_stuck soundLeft absentLeft onDisk crowded stuck
        rcases agrees.fits.2.room_or_full with ⟨fewRight, _⟩ | ⟨_, crowdedRight, stuckRight⟩
        · omega
        · have failsRight :=
            load_of_stuck soundRight absentRight onDiskRight crowdedRight stuckRight
          rw [← capacity] at failsRight
          exact .failed _ failsLeft failsRight settled

private theorem Agrees.content_eq (agrees : left.Agrees right locked) (mirrorsLeft : left.Mirrors)
    (mirrorsRight : right.Mirrors) {page : PageId} {frameLeft frameRight : Nat}
    {contentLeft contentRight : Page}
    (foundLeft : left.pool.residentFrame? page = some (frameLeft, contentLeft))
    (foundRight : right.pool.residentFrame? page = some (frameRight, contentRight)) :
    contentLeft = contentRight := by
  have unsaved := agrees.unsaved page
  rw [Pool.unsaved?_of_resident foundLeft, Pool.unsaved?_of_resident foundRight] at unsaved
  cases dirtyLeft : contentLeft.isDirty with
  | true =>
      rw [dirtyLeft, if_pos rfl] at unsaved
      split at unsaved
      · exact Option.some.inj unsaved
      · cases unsaved
  | false =>
      cases dirtyRight : contentRight.isDirty with
      | true =>
          rw [dirtyLeft, dirtyRight, if_pos rfl] at unsaved
          cases unsaved
      | false =>
          have onDisk := mirrorsLeft page frameLeft contentLeft foundLeft dirtyLeft
          rw [agrees.diskPage?, mirrorsRight page frameRight contentRight foundRight dirtyRight]
            at onDisk
          exact (Option.some.inj onDisk).symm

theorem Agrees.load (agrees : left.Agrees right locked) (mirrorsLeft : left.Mirrors)
    (mirrorsRight : right.Mirrors) {page : PageId}
    (within : ∀ other, other ≠ page → locked ≠ some other) : Loads left right page := by
  cases foundLeft : left.pool.residentFrame? page with
  | none =>
      cases foundRight : right.pool.residentFrame? page with
      | none => exact agrees.load_of_absent within foundLeft foundRight
      | some entry =>
          exact (agrees.symm.load_of_resident mirrorsRight within foundRight foundLeft).symm
  | some entry =>
      cases foundRight : right.pool.residentFrame? page with
      | none => exact agrees.load_of_resident mirrorsLeft within foundLeft foundRight
      | some other =>
          have loadsLeft := Database.load_of_resident foundLeft
          rw [agrees.content_eq mirrorsLeft mirrorsRight foundLeft foundRight] at loadsLeft
          exact agrees.loaded within loadsLeft (Database.load_of_resident foundRight)

/-! ### Writing back and dropping -/

theorem flushPage_of_saved {database : Database} {page : PageId}
    (saved : database.pool.unsaved? page = none) : database.flushPage page = .ok database := by
  unfold Database.flushPage
  cases found : database.pool.residentFrame? page with
  | none => rfl
  | some entry =>
      rw [Pool.unsaved?_of_resident found] at saved
      cases dirty : entry.2.isDirty with
      | false => simp [dirty]
      | true =>
          rw [dirty] at saved
          cases saved

theorem flushPage_of_unsaved {database : Database} {page : PageId} {frame : Nat} {content : Page}
    (found : database.pool.residentFrame? page = some (frame, content))
    (dirty : content.isDirty = true) :
    database.flushPage page = (database.catalog.file page.table).bind (fun file =>
      (file.writePage database.volume content).map (fun volume =>
        ({ database with volume := volume }).setFrame frame (content.mark none))) := by
  unfold Database.flushPage Database.writePage
  rw [found]
  simp only [dirty, if_true]
  cases database.catalog.file page.table with
  | error fault => rfl
  | ok file =>
      simp only [bind, Except.bind]
      cases file.writePage database.volume content <;> rfl

theorem Agrees.flushPage (agrees : left.Agrees right locked) (page : PageId) :
    (∃ fault, left.flushPage page = .error fault ∧ right.flushPage page = .error fault) ∨
    ∃ nextLeft nextRight, left.flushPage page = .ok nextLeft ∧
      right.flushPage page = .ok nextRight ∧ nextLeft.Agrees nextRight locked := by
  have same := agrees.unsaved page
  cases unsaved : left.pool.unsaved? page with
  | none =>
      rw [unsaved] at same
      exact .inr ⟨left, right, flushPage_of_saved unsaved, flushPage_of_saved same.symm, agrees⟩
  | some content =>
      rw [unsaved] at same
      obtain ⟨⟨frameLeft, foundLeft⟩, dirty⟩ := Pool.unsaved?_eq_some.mp unsaved
      obtain ⟨⟨frameRight, foundRight⟩, _⟩ := Pool.unsaved?_eq_some.mp same.symm
      have id : content.id = page := agrees.sound.1.id_eq foundLeft
      have file : right.catalog.file page.table = left.catalog.file page.table := by
        rw [agrees.catalog]
      rw [flushPage_of_unsaved foundLeft dirty, flushPage_of_unsaved foundRight dirty, file]
      cases left.catalog.file page.table with
      | error fault => exact .inl ⟨fault, rfl, rfl⟩
      | ok file =>
          dsimp only [Except.bind]
          rw [← agrees.volume]
          cases file.writePage left.volume content with
          | error fault => exact .inl ⟨fault, rfl, rfl⟩
          | ok volume =>
              exact .inr ⟨_, _, rfl, rfl,
                (agrees.setVolume volume).setFrame foundLeft foundRight id⟩

theorem Agrees.flushEach (agrees : left.Agrees right locked) (pages : List PageId) :
    (left.flushEach pages).2 = (right.flushEach pages).2 ∧
      (left.flushEach pages).1.Agrees (right.flushEach pages).1 locked := by
  induction pages generalizing left right with
  | nil => exact ⟨rfl, agrees⟩
  | cons page rest ih =>
      unfold Database.flushEach
      rcases agrees.flushPage page with ⟨fault, failsLeft, failsRight⟩ |
        ⟨nextLeft, nextRight, writesLeft, writesRight, next⟩
      · rw [failsLeft, failsRight]
        exact ⟨rfl, agrees⟩
      · rw [writesLeft, writesRight]
        exact ih next

theorem unsaved?_dismiss (database : Database) (transaction : TransactionId) (page : PageId) :
    (database.dismiss transaction).pool.unsaved? page =
      if page ∈ database.pool.writtenBy transaction then none
      else database.pool.unsaved? page := by
  unfold Pool.unsaved?
  rw [resident_dismiss]
  split <;> rfl

theorem sound_dismiss {database : Database} (sound : database.pool.Sound)
    (transaction : TransactionId) : (database.dismiss transaction).pool.Sound :=
  sound.discardEach (database.pool.writtenBy transaction)

theorem isCached_dismiss {database : Database} (sound : database.pool.Sound)
    (transaction : TransactionId) (page : PageId) :
    (database.dismiss transaction).pool.isCached page =
      if page ∈ database.pool.writtenBy transaction then false
      else database.pool.isCached page := by
  rw [(sound_dismiss sound transaction).isCached_eq, resident_dismiss, sound.isCached_eq]
  split <;> rfl

theorem written_dismiss (database : Database) (transaction : TransactionId) :
    (database.dismiss transaction).pool.written = database.pool.written.erase transaction := by
  change (database.pool.discardEach _).written.erase transaction = _
  rw [Pool.written_discardEach]

/-- When a transaction ends, its pages go in both, and nobody comes to have a page to itself. -/
theorem Agrees.dismiss (agrees : left.Agrees right none) (transaction : TransactionId) :
    (left.dismiss transaction).Agrees (right.dismiss transaction) none where
  catalog := agrees.catalog
  volume := agrees.volume
  locks := by
    rw [locks_dismiss, locks_dismiss, agrees.locks]
  written := by
    rw [written_dismiss, written_dismiss, agrees.written]
  capacity := (left.keeps_dismiss transaction).pool.capacity.trans
    (agrees.capacity.trans (right.keeps_dismiss transaction).pool.capacity.symm)
  sound := ⟨sound_dismiss agrees.sound.1 transaction, sound_dismiss agrees.sound.2 transaction⟩
  fits := ⟨(left.keeps_dismiss transaction).pool.fits agrees.fits.1,
    (right.keeps_dismiss transaction).pool.fits agrees.fits.2⟩
  unsaved := by
    intro page
    rw [unsaved?_dismiss, unsaved?_dismiss, agrees.writtenBy, agrees.unsaved]
  alone := by
    intro page unlocked alone
    rw [locks_dismiss] at alone
    rw [isCached_dismiss agrees.sound.1, isCached_dismiss agrees.sound.2, agrees.writtenBy,
      agrees.alone page unlocked (LockTable.exclusiveHolder?_of_releaseAll alone)]

theorem Agrees.commit (agrees : left.Agrees right none) (transaction : TransactionId) :
    (left.commit transaction).2 = (right.commit transaction).2 ∧
      (left.commit transaction).1.Agrees (right.commit transaction).1 none := by
  obtain ⟨same, flushed⟩ := agrees.flushEach (left.pool.writtenBy transaction)
  unfold Database.commit Database.flushTransaction
  rw [← agrees.writtenBy]
  cases flushLeft : left.flushEach (left.pool.writtenBy transaction) with
  | mk flushedLeft result =>
      cases flushRight : right.flushEach (left.pool.writtenBy transaction) with
      | mk flushedRight again =>
          rw [flushLeft, flushRight] at same flushed
          dsimp only at same flushed
          subst same
          cases result with
          | ok _ => exact ⟨rfl, flushed.dismiss transaction⟩
          | error fault => exact ⟨rfl, flushed⟩

end

end Database

end RowStore
