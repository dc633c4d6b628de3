import RowStore.Lock.Acquire
import RowStore.Lock.Release
import RowStore.Proofs.Lock.Modes

/-!
Runs of a lock table: sequences of checks, releases and interrupts, in any order. The operations are
described here by what they do to the holders of each page, to what each session holds, to the
sleepers and to the waits, so that no later argument has to open them.
-/

set_option autoImplicit false

namespace RowStore

/-! ### Runs -/

inductive LockAction where
  /-- The first check of a request, under an unused ticket, or the check of a woken sleeper anew. -/
  | acquire (ticket : Nat) (request : LockRequest)
  | release (transaction : TransactionId) (page : PageId)
  | releaseAll (transaction : TransactionId)
  | interrupt (transaction : TransactionId)
  deriving DecidableEq, Repr

namespace LockTable

def perform (table : LockTable) : LockAction → LockTable
  | .acquire ticket request => (table.acquire ticket request).1
  | .release transaction page => table.release transaction page
  | .releaseAll transaction => table.releaseAll transaction
  | .interrupt transaction => table.interrupt transaction

def run (actions : List LockAction) : LockTable :=
  actions.foldl perform empty

theorem run_append_singleton (actions : List LockAction) (action : LockAction) :
    run (actions ++ [action]) = (run actions).perform action := by
  simp [run]

def sleeps (table : LockTable) (transaction : TransactionId) : Bool :=
  table.sleepers.toList.any (fun entry => entry.2.request.transaction == transaction)

def Blocked (table : LockTable) (request : LockRequest) : Prop :=
  ∃ (ticket : Nat) (sleeper : Sleeper), table.sleepers[ticket]? = some sleeper ∧
    sleeper.request = request

/-- The holder's lock stands in the way of the request. -/
def Opposes (table : LockTable) (holder : TransactionId) (request : LockRequest) : Prop :=
  holder ≠ request.transaction ∧ ∃ held, table.lockMode? holder request.page = some held ∧
    request.mode.compatible held = false

/-- A transaction makes no request while one of its own sleeps, and does not end then either. -/
def Orderly (table : LockTable) : LockAction → Prop
  | .acquire ticket request =>
      table.sleepers[ticket]? = none → table.sleeps request.transaction = false
  | .releaseAll transaction => table.sleeps transaction = false
  | _ => True

instance (table : LockTable) (action : LockAction) : Decidable (table.Orderly action) := by
  cases action <;> unfold Orderly <;> infer_instance

def OrderlyFrom (table : LockTable) : List LockAction → Prop
  | [] => True
  | action :: rest => table.Orderly action ∧ (table.perform action).OrderlyFrom rest

def decideOrderlyFrom (table : LockTable) : (actions : List LockAction) →
    Decidable (table.OrderlyFrom actions)
  | [] => isTrue trivial
  | action :: rest =>
      have := (table.perform action).decideOrderlyFrom rest
      inferInstanceAs (Decidable (_ ∧ _))

instance (table : LockTable) (actions : List LockAction) :
    Decidable (table.OrderlyFrom actions) :=
  table.decideOrderlyFrom actions

theorem sleeps_eq_true {table : LockTable} {transaction : TransactionId} :
    table.sleeps transaction = true ↔
      ∃ (ticket : Nat) (sleeper : Sleeper), table.sleepers[ticket]? = some sleeper ∧
        sleeper.request.transaction = transaction := by
  simp only [sleeps, List.any_eq_true, beq_iff_eq, Prod.exists,
    Std.ExtTreeMap.mem_toList_iff_getElem?_eq_some]

theorem sleeps_eq_false {table : LockTable} {transaction : TransactionId} :
    table.sleeps transaction = false ↔
      ∀ (ticket : Nat) (sleeper : Sleeper), table.sleepers[ticket]? = some sleeper →
        sleeper.request.transaction ≠ transaction := by
  rw [← Bool.not_eq_true, sleeps_eq_true]
  simp only [not_exists, not_and, ne_eq]

theorem sleeps_eq_true_iff_blocked {table : LockTable} {transaction : TransactionId} :
    table.sleeps transaction = true ↔
      ∃ request, table.Blocked request ∧ request.transaction = transaction := by
  rw [sleeps_eq_true]
  constructor
  · rintro ⟨ticket, sleeper, found, of⟩
    exact ⟨sleeper.request, ⟨ticket, sleeper, found, rfl⟩, of⟩
  · rintro ⟨request, ⟨ticket, sleeper, found, rfl⟩, of⟩
    exact ⟨ticket, sleeper, found, of⟩

theorem orderlyFrom_invariant {kept : LockTable → Prop}
    (step : ∀ table action, kept table → table.Orderly action → kept (table.perform action))
    {table : LockTable} (start : kept table) {actions : List LockAction}
    (orderly : table.OrderlyFrom actions) : kept (actions.foldl perform table) := by
  induction actions generalizing table with
  | nil => exact start
  | cons action rest ih => exact ih (step table action start orderly.1) orderly.2

theorem orderlyFrom_append {table : LockTable} {actions : List LockAction} {action : LockAction} :
    table.OrderlyFrom (actions ++ [action]) ↔
      table.OrderlyFrom actions ∧ (actions.foldl perform table).Orderly action := by
  induction actions generalizing table with
  | nil => simp [OrderlyFrom]
  | cons first rest ih =>
      simp only [List.cons_append, OrderlyFrom, List.foldl_cons, ih, and_assoc]

theorem opposes_iff_mem_opposing {table : LockTable} {holder : TransactionId}
    {request : LockRequest} :
    table.Opposes holder request ↔
      holder ∈ (table.holders request.page).opposing request.transaction request.mode :=
  Holders.mem_opposing.symm

/-! ### Sessions -/

theorem mem_heldPages {table : LockTable} {transaction : TransactionId} {page : PageId} :
    page ∈ table.heldPages transaction ↔
      page ∈ (table.session (table.sessionId transaction)).held := by
  unfold heldPages session? session
  rw [Std.ExtTreeMap.getD_eq_getD_getElem?]
  cases table.sessions[table.sessionId transaction]? with
  | none => simp [Session.new]
  | some session => simp

theorem session_insert {table : LockTable} {id other : SessionId} {session : Session} :
    (table.sessions.insert id session).getD other Session.new =
      if id = other then session else table.session other := by
  simp [Std.ExtTreeMap.getD_insert, LockTable.session]

/-! ### Checks -/

/-- What a check finds when a request comes to it: nothing differs from the table before but that
the request's ticket sleeps no longer and that its session has begun. -/
structure Prepares (table prepared : LockTable) (ticket : Nat) (session : SessionId) : Prop where
  holders : ∀ page, prepared.holders page = table.holders page
  graph : prepared.graph = table.graph
  ended : prepared.ended = table.ended
  held : ∀ id, (prepared.session id).held = (table.session id).held
  begun : ∀ id, id ∈ prepared.sessions ↔ id = session ∨ id ∈ table.sessions
  sleepers : ∀ other, prepared.sleepers[other]? =
    if other = ticket then none else table.sleepers[other]?

theorem holders_enroll (table : LockTable) (request : LockRequest) (page : PageId) :
    (table.enroll request).holders page = table.holders page := by
  simp only [enroll, holders, Std.ExtTreeMap.getD_eq_getD_getElem?,
    Std.ExtTreeMap.getElem?_insertIfNew, Std.LawfulEqCmp.compare_eq_iff_eq]
  split
  · rename_i new
    obtain ⟨rfl, untracked⟩ := new
    rw [Std.ExtTreeMap.getElem?_eq_none untracked]
    rfl
  · rfl

theorem session_enroll (table : LockTable) (request : LockRequest) (id : SessionId) :
    (table.enroll request).session id = table.session id := by
  simp only [enroll, session, Std.ExtTreeMap.getD_eq_getD_getElem?,
    Std.ExtTreeMap.getElem?_insertIfNew, Std.LawfulEqCmp.compare_eq_iff_eq]
  split
  · rename_i new
    obtain ⟨rfl, unbegun⟩ := new
    rw [Std.ExtTreeMap.getElem?_eq_none unbegun]
    rfl
  · rfl

theorem prepares_enroll {table : LockTable} {ticket : Nat} (unused : table.sleepers[ticket]? = none)
    (request : LockRequest) :
    table.Prepares (table.enroll request) ticket (table.sessionId request.transaction) := by
  constructor
  · exact table.holders_enroll request
  · rfl
  · rfl
  · exact fun id => congrArg Session.held (table.session_enroll request id)
  · intro id
    simp only [enroll, Std.ExtTreeMap.mem_insertIfNew, Std.LawfulEqCmp.compare_eq_iff_eq,
      @eq_comm _ (table.sessionId request.transaction) id]
  · intro other
    by_cases same : other = ticket
    · rw [if_pos same, same]
      exact unused
    · rw [if_neg same]
      rfl

theorem prepares_rouse {table : LockTable} (ticket : Nat) (sleeper : Sleeper) :
    table.Prepares (table.rouse ticket sleeper) ticket sleeper.session := by
  constructor
  · intro page
    rfl
  · rfl
  · rfl
  · intro id
    change ((table.sessions.insert sleeper.session _).getD id Session.new).held = _
    rw [session_insert]
    split
    · rename_i same
      subst same
      rfl
    · rfl
  · intro id
    simp only [rouse, Std.ExtTreeMap.mem_insert, Std.LawfulEqCmp.compare_eq_iff_eq,
      @eq_comm _ sleeper.session id]
  · intro other
    simp only [rouse, Std.ExtTreeMap.getElem?_erase, Std.LawfulEqCmp.compare_eq_iff_eq,
      @eq_comm _ ticket other]

/-- Acquiring checks a new request or a woken one; a sleeper that nothing woke sleeps on. -/
theorem acquire_cases (table : LockTable) (ticket : Nat) (request : LockRequest) :
    (table.sleepers[ticket]? = none ∧
      table.acquire ticket request =
        (table.enroll request).check ticket request (table.sessionId request.transaction)) ∨
    (∃ sleeper : Sleeper, table.sleepers[ticket]? = some sleeper ∧ sleeper.woken = true ∧
      table.acquire ticket request =
        (table.rouse ticket sleeper).check ticket sleeper.request sleeper.session) ∨
    (∃ sleeper : Sleeper, table.sleepers[ticket]? = some sleeper ∧ sleeper.woken = false ∧
      table.acquire ticket request = (table, .asleep)) := by
  unfold acquire
  cases found : table.sleepers[ticket]? with
  | none => exact Or.inl ⟨rfl, rfl⟩
  | some sleeper =>
      cases woken : sleeper.woken with
      | true => exact Or.inr (Or.inl ⟨sleeper, rfl, woken, if_pos woken⟩)
      | false => exact Or.inr (Or.inr ⟨sleeper, rfl, woken, if_neg (by simp [woken])⟩)

/-- A check grants a request that nobody opposes. Others are refused because their waits would
close a cycle, or else because their session was interrupted, or else they sleep. -/
theorem check_cases (table : LockTable) (ticket : Nat) (request : LockRequest)
    (session : SessionId) :
    ((table.holders request.page).opposing request.transaction request.mode = [] ∧
      table.check ticket request session = (table.grant request session, .granted)) ∨
    ((table.holders request.page).opposing request.transaction request.mode ≠ [] ∧
      ∃ graph accepted, table.graph.addWaits request.transaction request.page
          ((table.holders request.page).opposing request.transaction request.mode) =
            (graph, accepted) ∧
        ((accepted = false ∧ table.check ticket request session =
          ({ table with graph := graph.resolve request.transaction request.page },
            .refused (.deadlock request.transaction request.page))) ∨
        (accepted = true ∧ (table.session session).interrupted = true ∧
          table.check ticket request session =
            ({ table with
                graph := graph.resolve request.transaction request.page
                sessions := table.sessions.insert session
                  (table.session session).consumeInterrupt },
              .refused (.interrupted request.transaction))) ∨
        (accepted = true ∧ (table.session session).interrupted = false ∧
          table.check ticket request session =
            ({ table with
                graph := graph
                sessions := table.sessions.insert session
                  ((table.session session).wait request.page)
                sleepers := table.sleepers.insert ticket ⟨request, session, false⟩ },
              .asleep)))) := by
  unfold check
  cases opposed : (table.holders request.page).opposing request.transaction request.mode with
  | nil => exact Or.inl ⟨rfl, rfl⟩
  | cons holder others =>
      right
      refine ⟨List.cons_ne_nil holder others, ?_⟩
      cases asked : table.graph.addWaits request.transaction request.page (holder :: others) with
      | mk graph accepted =>
          refine ⟨graph, accepted, rfl, ?_⟩
          simp only [checkOpposed, asked]
          cases accepted with
          | false => exact Or.inl ⟨rfl, rfl⟩
          | true =>
              right
              cases marked : (table.session session).interrupted with
              | true => exact Or.inl ⟨rfl, rfl, rfl⟩
              | false => exact Or.inr ⟨rfl, rfl, rfl⟩

theorem holders_grant (table : LockTable) (request : LockRequest) (session : SessionId)
    (page : PageId) :
    (table.grant request session).holders page =
      if request.page = page then
        (table.holders page).grant request.transaction request.mode
      else table.holders page := by
  simp only [grant, holders, Std.ExtTreeMap.getD_insert, Std.LawfulEqCmp.compare_eq_iff_eq]
  split
  · rename_i same
    rw [same]
  · rfl

theorem holders_acquire (table : LockTable) (ticket : Nat) (request : LockRequest) :
    (∀ page, (table.acquire ticket request).1.holders page = table.holders page) ∨
    ∃ asked : LockRequest,
      (table.holders asked.page).opposing asked.transaction asked.mode = [] ∧
        ∀ page, (table.acquire ticket request).1.holders page =
          if asked.page = page then (table.holders page).grant asked.transaction asked.mode
          else table.holders page := by
  have checked {prepared : LockTable} {session : SessionId}
      (prepares : table.Prepares prepared ticket session) (asked : LockRequest)
      (same : table.acquire ticket request = prepared.check ticket asked session) :
      (∀ page, (table.acquire ticket request).1.holders page = table.holders page) ∨
      ((table.holders asked.page).opposing asked.transaction asked.mode = [] ∧
        ∀ page, (table.acquire ticket request).1.holders page =
          if asked.page = page then (table.holders page).grant asked.transaction asked.mode
          else table.holders page) := by
    rw [same]
    rcases prepared.check_cases ticket asked session with ⟨unopposed, granted⟩ | ⟨_, opposed⟩
    · right
      rw [prepares.holders] at unopposed
      refine ⟨unopposed, ?_⟩
      intro page
      rw [granted, holders_grant, prepares.holders]
    · left
      intro page
      rw [← prepares.holders page]
      obtain ⟨graph, accepted, _, ⟨_, result⟩ | ⟨_, _, result⟩ | ⟨_, _, result⟩⟩ := opposed
      · rw [result]
        rfl
      · rw [result]
        rfl
      · rw [result]
        rfl
  rcases table.acquire_cases ticket request with ⟨unused, same⟩ | ⟨sleeper, _, _, same⟩ |
    ⟨_, _, _, same⟩
  · rcases checked (prepares_enroll unused request) request same with unchanged | granted
    · exact Or.inl unchanged
    · exact Or.inr ⟨request, granted⟩
  · rcases checked (prepares_rouse ticket sleeper) sleeper.request same with unchanged | granted
    · exact Or.inl unchanged
    · exact Or.inr ⟨sleeper.request, granted⟩
  · left
    intro page
    rw [same]

/-- The request has a lock that permits what it asks for. -/
def Permits (table : LockTable) (request : LockRequest) : Prop :=
  ∃ held, table.lockMode? request.transaction request.page = some held ∧
    held.Covers request.mode

/-- What a verdict on a request comes with: a granted request has its lock, only a request that is
asleep has a sleeper, and no other ticket's sleeper changes. -/
structure Answers (table next : LockTable) (ticket : Nat) (request : LockRequest)
    (verdict : Verdict) : Prop where
  others : ∀ other, other ≠ ticket → next.sleepers[other]? = table.sleepers[other]?
  granted : verdict = .granted → next.Permits request
  asleep : ∀ sleeper : Sleeper, next.sleepers[ticket]? = some sleeper →
    verdict = .asleep ∧ sleeper.request = request

private theorem Prepares.answers {table prepared : LockTable} {ticket : Nat} {session : SessionId}
    (prepares : table.Prepares prepared ticket session) (request : LockRequest) :
    table.Answers (prepared.check ticket request session).1 ticket request
      (prepared.check ticket request session).2 := by
  have others (other : Nat) (different : other ≠ ticket) :
      prepared.sleepers[other]? = table.sleepers[other]? := by
    rw [prepares.sleepers, if_neg different]
  have awake {sleeper : Sleeper} : prepared.sleepers[ticket]? ≠ some sleeper := by
    rw [prepares.sleepers, if_pos rfl]
    intro impossible
    cases impossible
  rcases prepared.check_cases ticket request session with ⟨unopposed, grants⟩ |
    ⟨_, graph, accepted, _, ⟨_, refuses⟩ | ⟨_, _, refuses⟩ | ⟨_, _, waits⟩⟩
  · rw [grants]
    refine ⟨others, ?_, fun sleeper found => absurd found awake⟩
    intro _
    unfold Permits lockMode?
    rw [holders_grant, if_pos rfl]
    exact Holders.modeOf?_grant_self _ _ _
  · rw [refuses]
    exact ⟨others, (fun impossible => by cases impossible),
      fun sleeper found => absurd found awake⟩
  · rw [refuses]
    exact ⟨others, (fun impossible => by cases impossible),
      fun sleeper found => absurd found awake⟩
  · rw [waits]
    refine ⟨?_, (fun impossible => by cases impossible), ?_⟩
    · intro other different
      rw [← others other different]
      dsimp only
      rw [Std.ExtTreeMap.getElem?_insert, if_neg]
      rw [Std.LawfulEqCmp.compare_eq_iff_eq]
      exact Ne.symm different
    · intro sleeper found
      dsimp only at found
      rw [Std.ExtTreeMap.getElem?_insert_self] at found
      cases found
      exact ⟨rfl, rfl⟩

theorem answers_acquire {table : LockTable} {ticket : Nat} {request : LockRequest}
    (again : ∀ sleeper : Sleeper, table.sleepers[ticket]? = some sleeper →
      sleeper.request = request) :
    table.Answers (table.acquire ticket request).1 ticket request
      (table.acquire ticket request).2 := by
  rcases table.acquire_cases ticket request with ⟨unused, same⟩ | ⟨sleeper, found, _, same⟩ |
    ⟨sleeper, found, _, same⟩
  · rw [same]
    exact (prepares_enroll unused request).answers request
  · rw [same, again sleeper found]
    exact (prepares_rouse ticket sleeper).answers request
  · rw [same]
    refine ⟨fun _ _ => rfl, (fun impossible => by cases impossible), ?_⟩
    intro other foundOther
    exact ⟨rfl, again other foundOther⟩

private theorem Prepares.holders_check {table prepared : LockTable} {ticket : Nat}
    {session : SessionId} (prepares : table.Prepares prepared ticket session)
    {request : LockRequest} {page : PageId}
    (elsewhere : (prepared.check ticket request session).2 = .granted → request.page ≠ page) :
    (prepared.check ticket request session).1.holders page = table.holders page := by
  rcases prepared.check_cases ticket request session with ⟨_, grants⟩ |
    ⟨_, graph, accepted, _, ⟨_, refuses⟩ | ⟨_, _, refuses⟩ | ⟨_, _, waits⟩⟩
  · rw [grants] at elsewhere ⊢
    rw [holders_grant, if_neg (elsewhere rfl)]
    exact prepares.holders page
  · rw [refuses]
    exact prepares.holders page
  · rw [refuses]
    exact prepares.holders page
  · rw [waits]
    exact prepares.holders page

/-- A request that sleeps under a ticket is only made again there: then nobody's hold of another
page changes, nor that of any page unless the request is granted. -/
theorem holders_acquire_elsewhere {table : LockTable} {ticket : Nat} {request : LockRequest}
    (again : ∀ sleeper : Sleeper, table.sleepers[ticket]? = some sleeper →
      sleeper.request = request) {page : PageId}
    (elsewhere : (table.acquire ticket request).2 = .granted → request.page ≠ page) :
    (table.acquire ticket request).1.holders page = table.holders page := by
  rcases table.acquire_cases ticket request with ⟨unused, same⟩ | ⟨sleeper, found, _, same⟩ |
    ⟨sleeper, found, _, same⟩
  · rw [same] at elsewhere ⊢
    exact (prepares_enroll unused request).holders_check elsewhere
  · rw [same, again sleeper found] at elsewhere ⊢
    exact (prepares_rouse ticket sleeper).holders_check elsewhere
  · rw [same]

/-! ### Releases and interrupts -/

theorem holders_wake (table : LockTable) (woken page : PageId) :
    (table.wake woken).holders page = table.holders page := rfl

theorem sleepers_wake (table : LockTable) (page : PageId) (ticket : Nat) :
    (table.wake page).sleepers[ticket]? = table.sleepers[ticket]?.map (fun sleeper =>
      if sleeper.request.page = page then { sleeper with woken := true } else sleeper) := by
  simp [wake, Std.ExtTreeMap.getElem?_map]

/-- Every sleeper afterwards slept before, for the same request. If it is unwoken it is as it was,
and sleeps for another page. -/
theorem sleeper_of_wake {table : LockTable} {page : PageId} {ticket : Nat} {sleeper : Sleeper}
    (found : (table.wake page).sleepers[ticket]? = some sleeper) :
    ∃ before : Sleeper, table.sleepers[ticket]? = some before ∧
      before.request = sleeper.request ∧ before.session = sleeper.session ∧
      (sleeper.woken = false → before = sleeper ∧ sleeper.request.page ≠ page) := by
  rw [sleepers_wake] at found
  obtain ⟨before, foundBefore, same⟩ := Option.map_eq_some_iff.mp found
  refine ⟨before, foundBefore, ?_⟩
  by_cases onPage : before.request.page = page
  · rw [if_pos onPage] at same
    subst same
    exact ⟨rfl, rfl, fun impossible => by cases impossible⟩
  · rw [if_neg onPage] at same
    subst same
    exact ⟨rfl, rfl, fun _ => ⟨rfl, onPage⟩⟩

theorem exists_sleeper_wake {table : LockTable} (page : PageId) {ticket : Nat} {sleeper : Sleeper}
    (found : table.sleepers[ticket]? = some sleeper) :
    ∃ after : Sleeper, (table.wake page).sleepers[ticket]? = some after ∧
      after.request = sleeper.request := by
  rw [sleepers_wake, found]
  refine ⟨_, rfl, ?_⟩
  dsimp only
  split <;> rfl

theorem release_untracked {table : LockTable} {page : PageId}
    (untracked : table.pages[page]? = none) (transaction : TransactionId) :
    table.release transaction page = table := by
  simp [release, untracked]

theorem holders_of_untracked {table : LockTable} {page : PageId}
    (untracked : table.pages[page]? = none) : table.holders page = Holders.nobody := by
  simp [holders, Std.ExtTreeMap.getD_eq_getD_getElem?, untracked]

theorem holders_release (table : LockTable) (transaction : TransactionId) (page other : PageId) :
    (table.release transaction page).holders other =
      if other = page then (table.holders page).release transaction else table.holders other := by
  unfold release
  cases tracked : table.pages[page]? with
  | none =>
      have nobody := holders_of_untracked tracked
      by_cases same : other = page
      · subst other
        rw [if_pos rfl, nobody]
        rfl
      · rw [if_neg same]
  | some holders =>
      have before : table.holders page = holders := by
        simp [LockTable.holders, Std.ExtTreeMap.getD_eq_getD_getElem?, tracked]
      rw [before, holders_wake]
      by_cases same : other = page
      · rw [if_pos same, same]
        simp only [LockTable.holders]
        split
        · rename_i dropped
          have free := (Bool.and_eq_true_iff.mp dropped).1
          rw [Std.ExtTreeMap.getD_erase_self, Holders.eq_nobody_of_isFree free]
        · rw [Std.ExtTreeMap.getD_insert_self]
      · rw [if_neg same]
        have apart : compare page other ≠ .eq := by simpa using Ne.symm same
        simp only [LockTable.holders]
        split
        · simp [Std.ExtTreeMap.getD_erase, apart]
        · simp [Std.ExtTreeMap.getD_insert, apart]

theorem lockMode?_release (table : LockTable) (transaction other : TransactionId)
    (page onPage : PageId) :
    (table.release transaction page).lockMode? other onPage =
      if other = transaction ∧ onPage = page then none else table.lockMode? other onPage := by
  unfold lockMode?
  rw [holders_release]
  by_cases same : onPage = page
  · subst onPage
    rw [if_pos rfl, Holders.modeOf?_release]
    by_cases mine : other = transaction
    · rw [if_pos mine, if_pos ⟨mine, rfl⟩]
    · rw [if_neg mine, if_neg (fun both => mine both.1)]
  · rw [if_neg same, if_neg (fun both => same both.2)]

theorem sleepers_release {table : LockTable} {page : PageId} (tracked : table.pages[page]? ≠ none)
    (transaction : TransactionId) (ticket : Nat) :
    (table.release transaction page).sleepers[ticket]? = (table.wake page).sleepers[ticket]? := by
  cases found : table.pages[page]? with
  | none => exact absurd found tracked
  | some holders => simp [release, found, wake]

theorem graph_release {table : LockTable} {page : PageId} (tracked : table.pages[page]? ≠ none)
    (transaction : TransactionId) :
    (table.release transaction page).graph = table.graph.release transaction page := by
  cases found : table.pages[page]? with
  | none => exact absurd found tracked
  | some holders => simp [release, found, wake]

theorem lockMode?_foldl_release (table : LockTable) (transaction other : TransactionId)
    (pages : List PageId) (page : PageId) :
    (pages.foldl (fun current released => current.release transaction released) table).lockMode?
        other page =
      if other = transaction ∧ page ∈ pages then none else table.lockMode? other page := by
  induction pages generalizing table with
  | nil => simp
  | cons first rest ih =>
      rw [List.foldl_cons, ih, lockMode?_release]
      by_cases mine : other = transaction
      · by_cases later : page ∈ rest
        · simp [mine, later]
        · simp [mine, later]
      · simp [mine]

theorem lockMode?_releaseAll (table : LockTable) (transaction other : TransactionId)
    (page : PageId) :
    (table.releaseAll transaction).lockMode? other page =
      if other = transaction ∧ page ∈ table.heldPages transaction then none
      else table.lockMode? other page :=
  table.lockMode?_foldl_release transaction other (table.heldPages transaction) page

theorem holders_interrupt (table : LockTable) (transaction : TransactionId) (page : PageId) :
    (table.interrupt transaction).holders page = table.holders page := by
  unfold interrupt
  dsimp only
  split <;> rfl

theorem mem_held_release {table : LockTable} {transaction : TransactionId} {page : PageId}
    (tracked : table.pages[page]? ≠ none) {id : SessionId} {onPage : PageId} :
    onPage ∈ ((table.release transaction page).session id).held ↔
      onPage ∈ (table.session id).held ∧
        ¬(id = table.sessionId transaction ∧ onPage = page) := by
  cases found : table.pages[page]? with
  | none => exact absurd found tracked
  | some holders =>
      simp only [release, found, wake, session, Std.ExtTreeMap.getD_eq_getD_getElem?,
        Std.ExtTreeMap.getElem?_modify, Std.LawfulEqCmp.compare_eq_iff_eq]
      by_cases mine : table.sessionId transaction = id
      · rw [if_pos mine, mine]
        cases table.sessions[id]? with
        | none => simp [Session.new]
        | some session => simp [Session.letGo, and_comm, @eq_comm _ page onPage]
      · simp [mine, Ne.symm mine]

theorem mem_sessions_release {table : LockTable} {transaction : TransactionId} {page : PageId}
    {id : SessionId} : id ∈ (table.release transaction page).sessions ↔ id ∈ table.sessions := by
  unfold release
  split
  · exact Iff.rfl
  · exact Std.ExtTreeMap.mem_modify

theorem ended_release (table : LockTable) (transaction : TransactionId) (page : PageId) :
    (table.release transaction page).ended = table.ended := by
  unfold release
  split <;> rfl

end LockTable

end RowStore
