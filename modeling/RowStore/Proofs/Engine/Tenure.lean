import RowStore.Proofs.Engine.History

/-!
Tenure: while a transaction has a page to itself, nobody else changes the page or ends with it. What
the disk has of a page, and what it is going to have once the page is written back, stay the same
through everything that is asked meanwhile and is not about the page.
-/

set_option autoImplicit false

namespace RowStore

namespace DatabaseAction

def file? : DatabaseAction → Option TableFile
  | .perform (.begin _ operation) => operation.file?
  | .append file => some file
  | _ => none

/-- A lock on the page is given back before its transaction ends. -/
def Releases (page : PageId) : DatabaseAction → Prop
  | .release _ released => released = page
  | _ => False

instance (page : PageId) : (action : DatabaseAction) → Decidable (action.Releases page)
  | .release _ released => inferInstanceAs (Decidable (released = page))
  | .perform _ | .commitRefused _ _ | .flush _ | .flushAll | .discard _ | .interrupt _
  | .edit _ _ | .append _ | .createTable _ _ _ | .openTable _ _ _ | .openFile _ _ _ _
  | .register _ _ | .clearCatalog => isFalse id

/-- A lock on the page is given back before its transaction ends, or the page is dropped by its
name. -/
def Yields (action : DatabaseAction) (page : PageId) : Prop :=
  action.Releases page ∨ action = .discard page

instance (action : DatabaseAction) (page : PageId) : Decidable (action.Yields page) :=
  inferInstanceAs (Decidable (_ ∨ _))

end DatabaseAction

namespace Engine

/-! ### What the moves of an action are -/

section

variable {engine : Engine} {action : DatabaseAction} {current : Database}

inductive Locks (engine : Engine) (current : Database) : DatabaseAction → LockAction → Prop where
  | acquire {ticket : Nat} {task : Task} (found : engine.tasks[ticket]? = some task) :
      Locks engine current (.perform (.turn ticket)) (.acquire ticket task.request)
  | releaseAll {action : DatabaseAction} {transaction : TransactionId}
      (ends : engine.Ends transaction action)
      (forgotten : ∀ page, page ∉ current.pool.writtenBy transaction)
      (same : current.pool.locks = engine.database.pool.locks) :
      Locks engine current action (.releaseAll transaction)
  | release {transaction : TransactionId} {page : PageId} :
      Locks engine current (.release transaction page) (.release transaction page)
  | interrupt {transaction : TransactionId} :
      Locks engine current (.interrupt transaction) (.interrupt transaction)

theorem Makes.locks {locking : LockAction} (makes : engine.Makes action current (.lock locking)) :
    engine.Locks current action locking := by
  cases makes with
  | acquire found => exact .acquire found
  | turn _ _ makes => cases makes
  | ending ends ending =>
      cases ending with
      | releaseAll forgotten same => exact .releaseAll ends forgotten same
  | release => exact .release
  | interrupt => exact .interrupt

/-- A page is dropped on purpose with a transaction that means to write it, or by its name. -/
theorem Makes.drop {page : PageId} (makes : engine.Makes action current (.drop page)) :
    (∃ transaction, engine.Ends transaction action ∧
      page ∈ engine.database.pool.writtenBy transaction) ∨ action = .discard page := by
  cases makes with
  | turn _ _ makes => cases makes
  | ending ends ending =>
      cases ending with
      | drop member => exact .inl ⟨_, ends, member⟩
  | discard => exact .inr rfl

theorem Makes.forget {transaction : TransactionId}
    (makes : engine.Makes action current (.forget transaction)) :
    engine.Ends transaction action := by
  cases makes with
  | turn _ _ makes => cases makes
  | ending ends ending =>
      cases ending
      exact ends

theorem Makes.clears (makes : engine.Makes action current .clear) : engine.Clears action := by
  cases makes with
  | turn _ _ makes => cases makes
  | ending _ ending => cases ending
  | clear clears => exact clears

inductive Writes (engine : Engine) (page : PageId) : DatabaseAction → Prop where
  | commit {transaction : TransactionId}
      (member : page ∈ engine.database.pool.writtenBy transaction) :
      Writes engine page (.perform (.commit transaction))
  | refused {transaction : TransactionId} {count : Nat}
      (member : page ∈ engine.database.pool.writtenBy transaction) :
      Writes engine page (.commitRefused transaction count)
  | flush {pages : List PageId} (member : page ∈ pages) : Writes engine page (.flush pages)
  | flushAll : Writes engine page .flushAll

theorem Makes.writes {page : PageId} (makes : engine.Makes action current (.save page)) :
    engine.Writes page action := by
  cases makes with
  | turn _ _ makes => cases makes
  | commit member => exact .commit member
  | ending _ ending => cases ending
  | refused member => exact .refused member
  | flush member => exact .flush member
  | flushAll => exact .flushAll

/-- How an action comes to change a frame: a task changes the page that it has to itself, or
whoever has the frame changes it. -/
inductive Edits (engine : Engine) (frame : Nat) : DatabaseAction → Database → List PageEdit → Prop
    where
  | turn {ticket : Nat} {task : Task} {current : Database} {content : Page} {call : PageEdit}
      (found : engine.tasks[ticket]? = some task) (edits : task.isEdit = true)
      (resident : current.pool.residentFrame? task.request.page = some (frame, content))
      (alone : current.pool.locks.lockMode? task.request.transaction task.request.page =
        some .exclusive)
      (gains : ∀ change ∈ content.gains call, change ∈ engine.changes (.perform (.turn ticket)))
      (noted : task.request.page ∈ current.pool.writtenBy task.request.transaction)
      (takes : ∃ change ∈ engine.changes (.perform (.turn ticket)),
        content.Takes (content.edit call) change) :
      Edits engine frame (.perform (.turn ticket)) current
        [call, .mark (some task.request.transaction)]
  | edit {call : PageEdit} {content : Page}
      (held : engine.database.pool.frames[frame]? = some content) :
      Edits engine frame (.edit frame call) engine.database [call]

theorem Makes.edits {frame : Nat} {edits : List PageEdit}
    (makes : engine.Makes action current (.edit frame edits)) :
    engine.Edits frame action current edits := by
  cases makes with
  | turn found changes makes =>
      cases makes with
      | edit edits resident alone gains noted takes =>
          obtain ⟨change, shown, takes⟩ := takes
          exact .turn found edits resident alone (fun change member =>
            changes change (gains change member)) noted ⟨change, changes change shown, takes⟩
  | ending _ ending => cases ending
  | edit held => exact .edit held

inductive Grows (engine : Engine) (file : TableFile) : DatabaseAction → Prop where
  | turn {ticket : Nat} {task : Task} (found : engine.tasks[ticket]? = some task)
      (own : task.file? = some file) : Grows engine file (.perform (.turn ticket))
  | brought {action : DatabaseAction} (own : action.file? = some file) : Grows engine file action
  | registered {action : DatabaseAction} {table : TableId}
      (registered : engine.database.catalog.file table = .ok file) : Grows engine file action

theorem Makes.grows {file : TableFile} (makes : engine.Makes action current (.grow file)) :
    engine.Grows file action := by
  cases makes with
  | begin own =>
      rcases own with brought | ⟨table, registered⟩
      · exact .brought brought
      · exact .registered registered
  | turn found _ makes =>
      cases makes with
      | grow own => exact .turn found own
  | ending _ ending => cases ending
  | append => exact .brought rfl

theorem Makes.opens {path : String} {opening : Volume.Opening}
    (makes : engine.Makes action current (.reopen path opening)) :
    action.opens? = some (path, opening) := by
  cases makes with
  | turn _ _ makes => cases makes
  | ending _ ending => cases ending
  | reopen opens => exact opens

theorem Makes.recatalogues {catalog : Catalog}
    (makes : engine.Makes action current (.recatalogue catalog)) : action.recatalogues = true := by
  cases makes with
  | turn _ _ makes => cases makes
  | ending _ ending => cases ending
  | recatalogue recatalogues => exact recatalogues

theorem Writes.recatalogues {page : PageId} (writes : engine.Writes page action) :
    action.recatalogues = false := by
  cases writes <;> rfl

structure Within (engine : Engine) (action : DatabaseAction) (current : Database) : Prop where
  numbering : current.numbering = engine.database.numbering
  catalog : current.catalog = engine.database.catalog ∨ action.recatalogues = true

theorem Grounded.serve_keeps (grounded : engine.Grounded) (proper : engine.Proper action)
    (kept : Database → Prop)
    (step : ∀ current next move, current.Steady → engine.Within action current → kept current →
      engine.Makes action current move → current.Moves move next → kept next)
    (start : kept engine.database) : kept (engine.serve action).database := by
  have both := (grounded.serve proper).1.keeps
    (fun current => engine.Within action current ∧ kept current) grounded.steady (by
      intro current next move steady holds makes moves
      refine ⟨⟨moves.numbering.trans holds.1.numbering, ?_⟩,
        step current next move steady holds.1 holds.2 makes moves⟩
      rw [moves.catalog]
      split
      · exact .inr makes.recatalogues
      · exact holds.1.catalog) ⟨⟨rfl, .inl rfl⟩, start⟩
  exact both.2

end

end Engine

/-! ### Pages to oneself -/

namespace Database

/-- Whoever means to write the page has it to itself. -/
def Reserved (database : Database) (page : PageId) : Prop :=
  ∀ transaction, page ∈ database.pool.writtenBy transaction →
    database.pool.locks.lockMode? transaction page = some .exclusive

structure Holds (database : Database) (transaction : TransactionId) (page : PageId) : Prop where
  reserved : database.Reserved page
  alone : database.pool.locks.lockMode? transaction page = some .exclusive

theorem Holds.eq_of_alone {database : Database} {transaction : TransactionId} {page : PageId}
    (holds : database.Holds transaction page) (steady : database.Steady) {other : TransactionId}
    (alone : database.pool.locks.lockMode? other page = some .exclusive) : other = transaction :=
  (steady.exclusive page).eq_of_modeOf? holds.alone alone

theorem Holds.eq_of_mem {database : Database} {transaction : TransactionId} {page : PageId}
    (holds : database.Holds transaction page) (steady : database.Steady) {other : TransactionId}
    (member : page ∈ database.pool.writtenBy other) : other = transaction :=
  holds.eq_of_alone steady (holds.reserved other member)

theorem Holds.exclusiveHolder? {database : Database} {transaction : TransactionId} {page : PageId}
    (holds : database.Holds transaction page) :
    database.pool.locks.exclusiveHolder? page = some transaction :=
  Holders.modeOf?_eq_some_exclusive.mp holds.alone

end Database

namespace Engine

section

variable {engine : Engine} {action : DatabaseAction} {current next : Database} {move : Move}
  {transaction : TransactionId} {page : PageId}

theorem reserved_new {start : Database} (setUp : start.SetUp) (page : PageId) :
    (new start).database.Reserved page := by
  obtain ⟨capacity, preference, pool⟩ := setUp.pool
  intro transaction member
  simp [Engine.new, pool, Pool.new, Pool.writtenBy] at member

end

/-! ### Pages of a file -/

/-- The file is the only one at its path that anybody knows. -/
structure Hosts (engine : Engine) (file : TableFile) : Prop where
  numbered : engine.database.numbering file.path = file.id
  names : engine.database.catalog.Names file
  tasks : ∀ (ticket : Nat) task, engine.tasks[ticket]? = some task → ∀ other,
    task.file? = some other → other.path = file.path → other = file

instance (engine : Engine) (file : TableFile) : Decidable (engine.Hosts file) :=
  decidable_of_iff (engine.database.numbering file.path = file.id ∧
      engine.database.catalog.Names file ∧ ∀ entry ∈ engine.tasks.toList, ∀ other ∈ entry.2.file?,
        other.path = file.path → other = file) (by
    constructor
    · intro all
      refine ⟨all.1, all.2.1, ?_⟩
      intro ticket task found other own
      exact all.2.2 (ticket, task) (Std.ExtTreeMap.mem_toList_iff_getElem?_eq_some.mpr found) other
        own
    · intro hosts
      refine ⟨hosts.numbered, hosts.names, ?_⟩
      intro entry listed other own
      exact hosts.tasks entry.1 entry.2 (Std.ExtTreeMap.mem_toList_iff_getElem?_eq_some.mp listed)
        other own)

/-- The action leaves the file the only one at its path that anybody knows, and does not empty
it. -/
structure Upholds (file : TableFile) (engine : Engine) (action : DatabaseAction) : Prop where
  names : (engine.serve action).database.catalog.Names file
  opens : action.opens? ≠ some (file.path, .truncating)
  brings : ∀ other ∈ action.file?, other.path = file.path → other = file

instance (file : TableFile) (engine : Engine) (action : DatabaseAction) :
    Decidable (Upholds file engine action) :=
  decidable_of_iff ((engine.serve action).database.catalog.Names file ∧
      action.opens? ≠ some (file.path, .truncating) ∧
      ∀ other ∈ action.file?, other.path = file.path → other = file)
    ⟨fun all => ⟨all.1, all.2.1, all.2.2⟩, fun upholds =>
      ⟨upholds.names, upholds.opens, upholds.brings⟩⟩

def Rewrites (engine : Engine) (transaction : TransactionId) (page : PageId) :
    DatabaseAction → Prop
  | .perform (.turn ticket) =>
      ∃ task ∈ engine.tasks[ticket]?, task.isEdit = true ∧
        task.request.transaction = transaction ∧ task.request.page = page
  | .edit frame _ => engine.database.pool.frames[frame]?.map Page.id = some page
  | _ => False

instance (engine : Engine) (transaction : TransactionId) (page : PageId) :
    (action : DatabaseAction) → Decidable (engine.Rewrites transaction page action)
  | .perform (.turn ticket) =>
      match found : engine.tasks[ticket]? with
      | some task =>
          decidable_of_iff (task.isEdit = true ∧ task.request.transaction = transaction ∧
              task.request.page = page) (by
            unfold Rewrites
            simp [found])
      | none => isFalse (by
          unfold Rewrites
          simp [found])
  | .edit frame _ =>
      inferInstanceAs (Decidable (engine.database.pool.frames[frame]?.map Page.id = some page))
  | .perform (.begin _ _) | .perform (.commit _) | .perform (.abort _) | .commitRefused _ _
  | .flush _ | .flushAll | .discard _ | .release _ _ | .interrupt _ | .append _
  | .createTable _ _ _ | .openTable _ _ _ | .openFile _ _ _ _ | .register _ _
  | .clearCatalog => isFalse id

section

variable {engine : Engine} {action : DatabaseAction} {file : TableFile}

theorem Hosts.grows (hosts : engine.Hosts file) (steady : engine.database.Steady)
    (brings : ∀ other ∈ action.file?, other.path = file.path → other = file) {other : TableFile}
    (grows : engine.Grows other action) (samePath : other.path = file.path) : other = file := by
  cases grows with
  | turn found own => exact hosts.tasks _ _ found other own samePath
  | brought own => exact brings other own samePath
  | registered registered =>
      exact (steady.catalog.eq_of_path hosts.numbered hosts.names registered samePath).2

theorem Hosts.serve (hosts : engine.Hosts file) (grounded : engine.Grounded)
    (proper : engine.Proper action) (upholds : Upholds file engine action) :
    (engine.serve action).Hosts file := by
  have numbering : (engine.serve action).database.numbering = engine.database.numbering :=
    grounded.serve_keeps proper
      (fun current => current.numbering = engine.database.numbering)
      (fun _ _ _ _ _ same _ moves => moves.numbering.trans same) rfl
  refine ⟨by rw [numbering]; exact hosts.numbered, upholds.names, ?_⟩
  intro ticket task found other own samePath
  rcases grounded.task_cases proper found with
    before | ⟨operation, rfl, begun⟩ | ⟨before, rfl, foundBefore, permits, goesOn⟩
  · exact hosts.tasks ticket task before other own samePath
  · have starts := Database.starts_ofOperation engine.database proper.2
    rcases (starts.goesOn task begun).2.2 other own with brought | ⟨table, registered⟩
    · exact hosts.grows grounded.steady upholds.brings (.brought brought) samePath
    · exact hosts.grows grounded.steady upholds.brings (.registered registered) samePath
  · rw [((grounded.works foundBefore permits).goesOn task goesOn).2.2] at own
    exact hosts.tasks ticket before foundBefore other own samePath

/-! ### Bytes of a page -/

theorem Makes.keeps_catalog {current : Database} {move : Move}
    (makes : engine.Makes action current move)
    (transfers : (∃ page, move = .save page) ∨ ∃ content, move = .arrive content) :
    action.recatalogues = false := by
  rcases transfers with ⟨page, rfl⟩ | ⟨content, rfl⟩
  · exact makes.writes.recatalogues
  · cases makes with
    | turn _ _ _ => rfl
    | ending _ ending => cases ending

theorem Hosts.respects (hosts : engine.Hosts file) (steady : engine.database.Steady)
    (upholds : Upholds file engine action) {current : Database}
    (within : engine.Within action current) {move : Move}
    (makes : engine.Makes action current move) : current.Respects file move := by
  refine ⟨?_, ?_, ?_, ?_⟩
  · rw [within.numbering]
    exact hosts.numbered
  · intro transfers
    rcases within.catalog with same | recatalogues
    · rw [same]
      exact hosts.names
    · rw [makes.keeps_catalog transfers] at recatalogues
      cases recatalogues
  · intro other grows samePath
    subst grows
    exact hosts.grows steady upholds.brings makes.grows samePath
  · intro path opening reopens samePath
    subst reopens
    have opens := makes.opens
    cases opening with
    | keeping => rfl
    | truncating =>
        rw [samePath] at opens
        exact absurd opens upholds.opens

/-- Only who rewrites a page edits the frame that it is in, if one transaction has it to itself. -/
theorem Makes.rewrites {current : Database} (steady : current.Steady) {frame : Nat}
    {edits : List PageEdit} (makes : engine.Makes action current (.edit frame edits))
    {content : Page} (held : current.pool.frames[frame]? = some content)
    {transaction : TransactionId} (holds : current.Holds transaction content.id) :
    engine.Rewrites transaction content.id action := by
  cases makes.edits with
  | turn found edits resident alone _ _ _ =>
      cases held.symm.trans (Pool.residentFrame?_eq_some.mp resident).2
      have own := (steady.sound.id_eq resident).symm
      rw [own] at alone
      exact ⟨_, found, edits, holds.eq_of_alone steady alone, own⟩
  | edit _ =>
      unfold Rewrites
      dsimp only
      rw [held]
      rfl

/-- When a transaction commits, a page that it means to write has the bytes on the disk that it was
going to have. -/
theorem Hosts.image?_of_commit (hosts : engine.Hosts file) (steady : engine.database.Steady)
    {transaction : TransactionId} {number : Nat}
    (noted : file.pageId number ∈ engine.database.pool.writtenBy transaction)
    (commits : (engine.database.commit transaction).2 = .ok ()) {bytes : List UInt8}
    (due : engine.database.due? file number = some bytes) :
    file.image? (engine.database.commit transaction).1.volume number = some bytes := by
  obtain ⟨flushed, path, ⟨fault, fails⟩ | ⟨succeeds, saved⟩⟩ :=
    Database.path_commit steady transaction
  · rw [fails] at commits
    cases commits
  · have both := path.keeps (fun current => (current.numbering = engine.database.numbering ∧
        current.catalog = engine.database.catalog) ∧ current.due? file number = some bytes) steady
      (by
        intro current next move steady kept saves moves
        obtain ⟨⟨numbering, catalog⟩, due⟩ := kept
        cases saves with
        | @save page _ =>
            refine ⟨⟨moves.numbering.trans numbering, moves.catalog.trans catalog⟩, ?_⟩
            have respects : current.Respects file (.save page) := by
              refine ⟨?_, ?_, nofun, nofun⟩
              · rw [numbering]
                exact hosts.numbered
              · intro _
                rw [catalog]
                exact hosts.names
            exact moves.due? steady respects nofun nofun due)
      ⟨⟨rfl, rfl⟩, due⟩
    have written := both.2
    unfold Database.due? at written
    rw [saved (file.pageId number) noted] at written
    rw [succeeds]
    exact written

end

end Engine

end RowStore
