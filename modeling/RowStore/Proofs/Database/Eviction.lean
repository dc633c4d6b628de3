import RowStore.Proofs.Database.Room

/-!
Eviction: loading a page fails for want of room exactly when the page could have been read, the pool
is full, and nothing in it can be dropped. Otherwise a full pool drops one page, and no other page in
it changes.
-/

set_option autoImplicit false

namespace RowStore

/-! ### Faults of reading -/

def Fault.OfReading : Fault → Prop
  | .pageNotFound _ | .disk _ | .corrupt _ => True
  | _ => False

def OnlyReads {α : Type} (result : Except Fault α) : Prop :=
  ∀ fault, result = .error fault → fault.OfReading

section

variable {α β : Type}

theorem onlyReads_ok (value : α) : OnlyReads (.ok value) := nofun

theorem onlyReads_corrupt (cause : CorruptCause) :
    OnlyReads (.error (.corrupt cause) : Except Fault α) := by
  intro fault fails
  cases fails
  trivial

theorem OnlyReads.bind {result : Except Fault α} {next : α → Except Fault β}
    (first : OnlyReads result) (rest : ∀ value, OnlyReads (next value)) :
    OnlyReads (result >>= next) := by
  intro fault fails
  cases result with
  | error other =>
      cases fails
      exact first fault rfl
  | ok value => exact rest value fault fails

end

theorem onlyReads_decodeField (type : FieldType) (bytes : List UInt8) :
    OnlyReads (type.decode bytes) := by
  unfold FieldType.decode
  split
  · exact onlyReads_corrupt _
  · cases type with
    | int => exact onlyReads_ok _
    | string =>
        dsimp only
        unfold FieldType.decodeContent
        split
        · exact onlyReads_corrupt _
        · split
          · exact onlyReads_ok _
          · exact onlyReads_corrupt _

theorem onlyReads_decodeFields (columns : List Column) (bytes : List UInt8) :
    OnlyReads (Row.decodeFields columns bytes) := by
  induction columns generalizing bytes with
  | nil => exact onlyReads_ok _
  | cons column columns ih =>
      unfold Row.decodeFields
      split
      · exact onlyReads_corrupt _
      · apply (onlyReads_decodeField column.type bytes).bind
        intro field
        exact (ih _).bind fun fields => onlyReads_ok _

theorem onlyReads_decodeSlots (id : PageId) (schema : Schema) (header : List UInt8)
    (slot count : Nat) (bytes : List UInt8) :
    OnlyReads (Page.decodeSlots id schema header slot count bytes) := by
  induction count generalizing slot bytes with
  | zero => exact onlyReads_ok _
  | succ count ih =>
      have onward (content : Option Row) : OnlyReads (do
          let contents ← Page.decodeSlots id schema header (slot + 1) count
            (bytes.drop schema.width)
          return content :: contents) :=
        (ih _ _).bind fun contents => onlyReads_ok _
      unfold Page.decodeSlots
      dsimp only
      split
      · apply OnlyReads.bind
        · exact (onlyReads_decodeFields schema.columns _).bind fun fields => onlyReads_ok _
        · exact fun row => onward _
      · exact onward none

theorem onlyReads_read (pages : PagedFile) (number length : Nat) :
    OnlyReads (pages.read number length) := by
  unfold PagedFile.read PagedFile.checkLength
  apply OnlyReads.bind
  · split
    · exact onlyReads_ok _
    · exact onlyReads_corrupt _
  · intro _ fault fails
    dsimp only at fails
    split at fails
    · cases fails
      trivial
    · cases fails

/-- A page that cannot be read is missing, or the disk refuses it, or its bytes make no sense. -/
theorem onlyReads_readPage (file : TableFile) (volume : Volume) (page : PageId) :
    OnlyReads (file.readPage volume page) := by
  unfold TableFile.readPage
  split
  · apply (onlyReads_read _ _ _).bind
    intro image
    unfold Page.decode
    dsimp only
    split
    · exact onlyReads_corrupt _
    · exact (onlyReads_decodeSlots _ _ _ _ _ _).bind fun contents => onlyReads_ok _
  · intro fault fails
    cases fails
    trivial

/-! ### Pools -/

namespace Pool

/-- The page is in the pool without changes, and no transaction has it to itself. -/
def Spares (pool : Pool) (page : PageId) : Prop :=
  ∃ frame content, pool.residentFrame? page = some (frame, content) ∧
    content.isDirty = false ∧ pool.locks.exclusiveHolder? page = none

/-- Each page in the pool has changes, or a transaction has it to itself. -/
def Stuck (pool : Pool) : Prop :=
  ∀ page frame content, pool.residentFrame? page = some (frame, content) →
    content.isDirty = true ∨ ∃ holder, pool.locks.exclusiveHolder? page = some holder

section

variable {pool : Pool}

theorem mem_evictable_iff_spares {page : PageId} : page ∈ pool.evictable ↔ pool.Spares page := by
  simp only [mem_evictable, Spares, Page.isDirty, Option.isSome_eq_false_iff,
    Option.isNone_iff_eq_none]

theorem stuck_iff : pool.Stuck ↔ ∀ page, ¬pool.Spares page := by
  constructor
  · rintro stuck page ⟨frame, content, found, clean, free⟩
    rcases stuck page frame content found with dirty | ⟨holder, holds⟩
    · rw [clean] at dirty
      cases dirty
    · rw [free] at holds
      cases holds
  · intro none page frame content found
    by_contra neither
    obtain ⟨clean, free⟩ := not_or.mp neither
    refine none page ⟨frame, content, found, Bool.eq_false_iff.mpr clean, ?_⟩
    exact Option.eq_none_iff_forall_ne_some.mpr fun holder holds => free ⟨holder, holds⟩

theorem evictable_eq_nil : pool.evictable = [] ↔ pool.Stuck := by
  rw [List.eq_nil_iff_forall_not_mem, stuck_iff]
  simp only [mem_evictable_iff_spares]

/-- Whether a page can be dropped depends on the pages in the pool and on who has them to
himself. -/
theorem spares_congr {next : Pool} {page : PageId}
    (frames : next.residentFrame? page = pool.residentFrame? page)
    (holders : pool.residentFrame? page ≠ none →
      next.locks.exclusiveHolder? page = pool.locks.exclusiveHolder? page) :
    next.Spares page ↔ pool.Spares page := by
  unfold Spares
  rw [frames]
  cases found : pool.residentFrame? page with
  | none => simp
  | some entry =>
      rw [found] at holders
      rw [holders (Option.some_ne_none entry)]

theorem makeRoom_eq_error {fault : Fault} (fails : pool.makeRoom = .error fault) :
    fault = .poolExhausted pool.capacity ∧ pool.capacity ≤ pool.residentCount ∧ pool.Stuck := by
  by_cases room : pool.residentCount < pool.capacity
  · unfold makeRoom at fails
    rw [if_pos room] at fails
    cases fails
  · have full := Nat.not_lt.mp room
    by_cases stuck : pool.evictable = []
    · rw [makeRoom_of_stuck full stuck] at fails
      cases fails
      exact ⟨rfl, full, evictable_eq_nil.mp stuck⟩
    · obtain ⟨roomy, makes⟩ := makeRoom_of_evictable stuck
      rw [makes] at fails
      cases fails

theorem installNew_eq_error {content : Page} {fault : Fault}
    (fails : pool.installNew content = .error fault) : pool.makeRoom = .error fault := by
  unfold installNew install at fails
  cases cached : pool.isCached content.id with
  | true =>
      rw [cached] at fails
      cases fails
  | false =>
      cases makes : pool.makeRoom with
      | error other =>
          rw [cached, makes] at fails
          cases fails
          rfl
      | ok roomy =>
          rw [cached, makes] at fails
          cases fails

/-- A full pool of which something can be dropped drops one page for the one that comes. -/
theorem installNew_of_full (sound : pool.Sound) {content : Page}
    (absent : pool.residentFrame? content.id = none)
    (full : pool.capacity ≤ pool.residentCount) (drops : ¬pool.Stuck) :
    ∃ installed victim, pool.Spares victim ∧
      pool.installNew content = .ok (installed, pool.nextFrame) ∧
        ∀ other, installed.residentFrame? other =
          if other = content.id then some (pool.nextFrame, content)
          else if other = victim then none
          else pool.residentFrame? other := by
  obtain ⟨roomy, makes⟩ := makeRoom_of_evictable (mt evictable_eq_nil.mp drops)
  rcases makeRoom_cases makes with ⟨room, _⟩ | ⟨victim, frame, old, found, clean, free, rfl⟩
  · exact absurd full (Nat.not_le.mpr room)
  · have installs := install_of_room (sound.isCached_eq_false absent) makes pool.nextFrame
    unfold installNew
    rw [installs]
    have spares := mem_evictable_iff_spares.mp (mem_evictable.mpr ⟨frame, old, found, clean, free⟩)
    refine ⟨_, victim, spares, rfl, ?_⟩
    intro other
    split
    · rename_i same
      rw [same]
      exact residentFrame?_eq_some.mpr
        ⟨Std.ExtTreeMap.getElem?_insert_self, Std.ExtTreeMap.getElem?_insert_self⟩
    · rename_i different
      refine ((sound.discard victim).residentFrame?_fresh (Nat.le_refl _) different content
        (pool.nextFrame + 1)).trans ?_
      exact pool.residentFrame?_discard victim other

end

end Pool

/-! ### Loading -/

namespace Database

/-- The page is not in the pool, but its table is registered and the page can be read from its
file. -/
def Misses (database : Database) (page : PageId) (content : Page) : Prop :=
  database.pool.residentFrame? page = none ∧
    ∃ file, database.catalog.file page.table = .ok file ∧
      file.readPage database.volume page = .ok content

section

variable {database : Database} {page : PageId}

theorem load_eq_exhausted (sound : database.pool.Sound) {capacity : Nat} :
    database.load page = .error (.poolExhausted capacity) ↔
      capacity = database.pool.capacity ∧ (∃ content, database.Misses page content) ∧
        database.pool.capacity ≤ database.pool.residentCount ∧ database.pool.Stuck := by
  constructor
  · intro fails
    unfold load at fails
    cases found : database.pool.residentFrame? page with
    | some entry =>
        rw [found] at fails
        cases fails
    | none =>
        rw [found] at fails
        cases registered : database.catalog.file page.table with
        | error fault =>
            rw [registered] at fails
            cases fails
            unfold Catalog.file at registered
            split at registered
            · cases registered
            · cases registered
        | ok file =>
            cases read : file.readPage database.volume page with
            | error fault =>
                simp only [registered, bind, Except.bind, read] at fails
                cases fails
                exact (onlyReads_readPage file database.volume page _ read).elim
            | ok content =>
                simp only [registered, bind, Except.bind, read] at fails
                split at fails
                · rename_i fault installs
                  cases fails
                  obtain ⟨same, full, stuck⟩ :=
                    Pool.makeRoom_eq_error (Pool.installNew_eq_error installs)
                  cases same
                  exact ⟨rfl, ⟨content, found, file, registered, read⟩, full, stuck⟩
                · cases fails
  · rintro ⟨rfl, ⟨content, absent, reads⟩, full, stuck⟩
    exact load_of_stuck sound absent (diskPage?_eq_some.mpr reads) full
      (Pool.evictable_eq_nil.mpr stuck)

theorem load_of_full (sound : database.pool.Sound) {content : Page}
    (misses : database.Misses page content)
    (full : database.pool.capacity ≤ database.pool.residentCount)
    (drops : ¬database.pool.Stuck) :
    ∃ pool frame victim, database.pool.Spares victim ∧
      database.load page = .ok ({ database with pool := pool }, frame, content) ∧
        ∀ other, pool.residentFrame? other =
          if other = page then some (frame, content)
          else if other = victim then none
          else database.pool.residentFrame? other := by
  obtain ⟨absent, file, registered, read⟩ := misses
  have id : content.id = page := (TableFile.wellFormed_of_readPage read).2.1
  subst id
  obtain ⟨pool, victim, spares, installs, after⟩ :=
    Pool.installNew_of_full sound absent full drops
  refine ⟨pool, _, victim, spares, ?_, after⟩
  unfold load
  rw [absent, registered]
  simp only [bind, Except.bind, read, installs]
  rfl

end

end Database

end RowStore
