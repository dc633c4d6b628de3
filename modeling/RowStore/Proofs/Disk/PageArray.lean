import RowStore.Proofs.Disk.PagedFile
import RowStore.Proofs.Disk.Volume

/-!
Arrays of pages: a paged file is an array of pages, behind which there may be a tail that is shorter
than a page. A file that was begun empty never has a tail. The calls on a file are taken step by
step, too, on the open file, which has a place of its own where it is read and written next: there a
call that fails halfway would leave its first half behind. None does.
-/

set_option autoImplicit false

namespace RowStore.PagedFile

/-! ### Bytes that are put down -/

/-- The data has come to be at the offset. A gap before it is filled with zeros, and every other
byte that there was is as it was. -/
structure Overlaid (before after : List UInt8) (offset : Nat) (data : List UInt8) : Prop where
  length : after.length = max before.length (offset + data.length)
  placed : ∀ index, index < data.length → after[offset + index]? = data[index]?
  gap : ∀ position, before.length ≤ position → position < offset → after[position]? = some 0
  kept : ∀ position, position < before.length →
    position < offset ∨ offset + data.length ≤ position → after[position]? = before[position]?

theorem overlaid_splice (bytes data : List UInt8) (offset : Nat) :
    Overlaid bytes (splice bytes offset data) offset data where
  length := length_splice bytes data offset
  placed := by
    intro index within
    rw [getElem?_splice, if_neg (by omega), if_pos (by omega), Nat.add_sub_cancel_left]
  gap := by
    intro position beyond before
    rw [getElem?_splice, if_pos before, if_neg (by omega)]
  kept := by
    intro position inside apart
    rw [getElem?_splice]
    rcases apart with before | behind
    · rw [if_pos before, if_pos inside]
    · rw [if_neg (by omega), if_neg (by omega)]

/-! ### Outcomes -/

theorem read_of_misfit {file : PagedFile} {length : Nat} (misfits : length ≠ file.pageSize)
    (number : Nat) :
    file.read number length = .error (.corrupt (.bufferSize file.pageSize length)) := by
  unfold read checkLength
  rw [if_neg misfits]
  rfl

theorem read_of_short {file : PagedFile} {number : Nat}
    (short : file.bytes.length < number * file.pageSize + file.pageSize) :
    file.read number file.pageSize = .error (.disk (.beyondEnd number)) := by
  unfold read checkLength
  simp only [if_true, bind, Except.bind, if_pos short]
  rfl

theorem write_of_fits {file : PagedFile} {data : List UInt8} (fits : data.length = file.pageSize)
    (number : Nat) : file.write number data = .ok (file.put number data) := by
  unfold write checkLength
  rw [if_pos fits]
  rfl

theorem write_of_misfit {file : PagedFile} {data : List UInt8}
    (misfits : data.length ≠ file.pageSize) (number : Nat) :
    file.write number data = .error (.corrupt (.bufferSize file.pageSize data.length)) := by
  unfold write checkLength
  rw [if_neg misfits]
  rfl

/-! ### Calls step by step -/

/-- Steps on an open file and the place where it is read and written next. A fault keeps what was
changed before it. -/
abbrev Steps (Answer : Type) : Type :=
  EStateM Fault (PagedFile × Nat) Answer

def seek (place : Nat) : Steps Unit :=
  modify (fun (file, _) => (file, place))

/-- Reads on until the buffer is full, which it never is at the end of the file. -/
def readOn (length : Nat) : Steps (List UInt8) := do
  let (file, place) ← get
  let found := (file.bytes.drop place).take length
  seek (place + found.length)
  if found.length < length then throw (.disk (.described "failed to fill whole buffer"))
  return found

def writeOn (data : List UInt8) : Steps Unit :=
  modify (fun (file, place) =>
    ({ file with bytes := splice file.bytes place data }, place + data.length))

def checkInPlace (length : Nat) : Steps Unit := do
  let (file, _) ← get
  if length ≠ file.pageSize then throw (.corrupt (.bufferSize file.pageSize length))

def countInPlace : Steps Nat := do
  let (file, _) ← get
  return file.pageCount

def readInPlace (number length : Nat) : Steps (List UInt8) := do
  checkInPlace length
  let (file, _) ← get
  if file.bytes.length < number * file.pageSize + file.pageSize then
    throw (.disk (.beyondEnd number))
  seek (number * file.pageSize)
  readOn length

def writeInPlace (number : Nat) (data : List UInt8) : Steps Unit := do
  checkInPlace data.length
  let (file, _) ← get
  seek (number * file.pageSize)
  writeOn data

def appendInPlace (data : List UInt8) : Steps Nat := do
  let number ← countInPlace
  writeInPlace number data
  return number

/-! ### Steps come to the whole -/

section

variable (file : PagedFile) (place number length : Nat) (data : List UInt8)

theorem run_checkInPlace : (checkInPlace length).run (file, place) =
    match file.checkLength length with
    | .ok _ => .ok () (file, place)
    | .error fault => .error fault (file, place) := by
  unfold checkLength
  simp only [checkInPlace, EStateM.run_bind, EStateM.run_get]
  by_cases fits : length = file.pageSize
  · rw [if_neg (not_not_intro fits), if_pos fits]
    rfl
  · rw [if_pos fits, if_neg fits]
    rfl

theorem run_countInPlace :
    countInPlace.run (file, place) = .ok file.pageCount (file, place) := rfl

theorem run_readOn (inside : place + length ≤ file.bytes.length) :
    (readOn length).run (file, place) =
      .ok ((file.bytes.drop place).take length) (file, place + length) := by
  have full : ((file.bytes.drop place).take length).length = length := by
    rw [List.length_take, List.length_drop]
    omega
  simp only [readOn, EStateM.run_bind, EStateM.run_get, full]
  rw [if_neg (Nat.lt_irrefl length)]
  rfl

theorem run_readInPlace : (readInPlace number length).run (file, place) =
    match file.read number length with
    | .ok content => .ok content (file, number * file.pageSize + file.pageSize)
    | .error fault => .error fault (file, place) := by
  simp only [readInPlace, EStateM.run_bind, run_checkInPlace]
  unfold checkLength
  by_cases fits : length = file.pageSize
  · rw [if_pos fits, fits]
    by_cases short : file.bytes.length < number * file.pageSize + file.pageSize
    · rw [read_of_short short]
      simp only [EStateM.run_get, if_pos short]
      rfl
    · have inside := Nat.not_lt.mp short
      rw [read_eq_ok.mpr ⟨inside, rfl⟩]
      simp only [EStateM.run_get, if_neg short]
      exact run_readOn file (number * file.pageSize) file.pageSize inside
  · rw [if_neg fits, read_of_misfit fits]

/-- Writing in place comes to what writing comes to, and a failure leaves the file alone. -/
theorem run_writeInPlace : (writeInPlace number data).run (file, place) =
    match file.write number data with
    | .ok written => .ok () (written, number * file.pageSize + data.length)
    | .error fault => .error fault (file, place) := by
  unfold write
  simp only [writeInPlace, EStateM.run_bind, run_checkInPlace]
  cases file.checkLength data.length <;> rfl

theorem run_appendInPlace : (appendInPlace data).run (file, place) =
    match file.append data with
    | .ok (extended, added) =>
        .ok added (extended, file.pageCount * file.pageSize + data.length)
    | .error fault => .error fault (file, place) := by
  unfold append
  simp only [appendInPlace, EStateM.run_bind, run_countInPlace, run_writeInPlace]
  cases file.write file.pageCount data <;> rfl

end

/-! ### Runs -/

inductive Call where
  | read (number length : Nat)
  | write (number : Nat) (data : List UInt8)
  | append (data : List UInt8)
  | count

def after (file : PagedFile) : Call → PagedFile
  | .read _ _ | .count => file
  | .write number data => (file.write number data).toOption.getD file
  | .append data => ((file.append data).map Prod.fst).toOption.getD file

def afterEach (file : PagedFile) (calls : List Call) : PagedFile :=
  calls.foldl after file

def left {Answer : Type} : EStateM.Result Fault (PagedFile × Nat) Answer → PagedFile × Nat
  | .ok _ after => after
  | .error _ after => after

def call (opened : PagedFile × Nat) : Call → PagedFile × Nat
  | .read number length => left ((readInPlace number length).run opened)
  | .write number data => left ((writeInPlace number data).run opened)
  | .append data => left ((appendInPlace data).run opened)
  | .count => left (countInPlace.run opened)

def callEach (opened : PagedFile × Nat) (calls : List Call) : PagedFile × Nat :=
  calls.foldl call opened

/-- Wherever the open file is read and written next, a call that is made on it step by step leaves it
as the call does. -/
theorem fst_call (opened : PagedFile × Nat) (asked : Call) :
    (call opened asked).1 = opened.1.after asked := by
  obtain ⟨file, place⟩ := opened
  unfold call after
  cases asked with
  | read number length =>
      dsimp only
      rw [run_readInPlace]
      cases file.read number length <;> rfl
  | write number data =>
      dsimp only
      rw [run_writeInPlace]
      cases file.write number data <;> rfl
  | append data =>
      dsimp only
      rw [run_appendInPlace]
      cases file.append data <;> rfl
  | count => rfl

theorem fst_callEach (opened : PagedFile × Nat) (calls : List Call) :
    (callEach opened calls).1 = opened.1.afterEach calls := by
  induction calls generalizing opened with
  | nil => rfl
  | cons first rest ih =>
      have later := ih (call opened first)
      rw [fst_call] at later
      exact later

/-- A call leaves the file as it was, or has put a page in its place. -/
theorem after_cases (file : PagedFile) (asked : Call) :
    file.after asked = file ∨ ∃ number data, data.length = file.pageSize ∧
      file.after asked = file.put number data := by
  unfold after
  cases asked with
  | read number length => exact .inl rfl
  | write number data =>
      dsimp only
      by_cases fits : data.length = file.pageSize
      · rw [write_of_fits fits]
        exact .inr ⟨number, data, fits, rfl⟩
      · rw [write_of_misfit fits]
        exact .inl rfl
  | append data =>
      unfold append
      dsimp only
      by_cases fits : data.length = file.pageSize
      · rw [write_of_fits fits]
        exact .inr ⟨file.pageCount, data, fits, rfl⟩
      · rw [write_of_misfit fits]
        exact .inl rfl
  | count => exact .inl rfl

theorem pageSize_after (file : PagedFile) (asked : Call) :
    (file.after asked).pageSize = file.pageSize := by
  rcases file.after_cases asked with same | ⟨number, data, _, put⟩
  · rw [same]
  · rw [put]
    rfl

theorem pageSize_afterEach (file : PagedFile) (calls : List Call) :
    (file.afterEach calls).pageSize = file.pageSize := by
  induction calls generalizing file with
  | nil => rfl
  | cons first rest ih => exact (ih (file.after first)).trans (file.pageSize_after first)

theorem dvd_length_after {file : PagedFile} (whole : file.pageSize ∣ file.bytes.length)
    (asked : Call) : file.pageSize ∣ (file.after asked).bytes.length := by
  rcases file.after_cases asked with same | ⟨number, data, fits, put⟩
  · rw [same]
    exact whole
  · rw [put, PagedFile.put, length_splice, fits, ← Nat.succ_mul]
    rcases Nat.le_total file.bytes.length (number.succ * file.pageSize) with less | more
    · rw [Nat.max_eq_right less]
      exact Nat.dvd_mul_left _ _
    · rw [Nat.max_eq_left more]
      exact whole

theorem dvd_length_afterEach {file : PagedFile} (whole : file.pageSize ∣ file.bytes.length)
    (calls : List Call) : file.pageSize ∣ (file.afterEach calls).bytes.length := by
  induction calls generalizing file with
  | nil => exact whole
  | cons first rest ih =>
      have next := dvd_length_after whole first
      rw [← file.pageSize_after first] at next ⊢
      exact ih next

/-! ### Arrays of pages -/

/-- What the calls on a file come to: the whole pages that its bytes hold are there to be read, and a
page of bytes is put in its place and nowhere else. -/
structure Arrayed (file : PagedFile) : Prop where
  counts : file.pageCount = file.bytes.length / file.pageSize
  told : file.pageCount < UInt32.size → file.toldCount = file.pageCount
  reads : ∀ number, number < file.pageCount → ∃ content,
    file.read number file.pageSize = .ok content ∧
      content.length = file.pageSize ∧ ∀ index, index < file.pageSize →
        content[index]? = file.bytes[number * file.pageSize + index]?
  beyond : ∀ number, file.pageCount ≤ number →
    file.read number file.pageSize = .error (.disk (.beyondEnd number))
  writes : ∀ number data, data.length = file.pageSize → ∃ written,
    file.write number data = .ok written ∧ written.pageSize = file.pageSize ∧
      Overlaid file.bytes written.bytes (number * file.pageSize) data
  appends : ∀ data, data.length = file.pageSize → ∃ extended,
    file.append data = .ok (extended, file.pageCount) ∧ extended.pageSize = file.pageSize ∧
      Overlaid file.bytes extended.bytes (file.pageCount * file.pageSize) data ∧
      extended.pageCount = file.pageCount + 1
  misfit : ∀ number length data, length ≠ file.pageSize → data.length = length →
    file.read number length = .error (.corrupt (.bufferSize file.pageSize length)) ∧
      file.write number data = .error (.corrupt (.bufferSize file.pageSize length)) ∧
      file.append data = .error (.corrupt (.bufferSize file.pageSize length))

/-- Step by step the calls on an open file come to the same, wherever it is read and written next,
and one that fails leaves everything as it was. -/
structure Stepwise (file : PagedFile) (place : Nat) : Prop where
  counts : countInPlace.run (file, place) = .ok file.pageCount (file, place)
  reads : ∀ number length, ∃ next, (readInPlace number length).run (file, place) =
    match file.read number length with
    | .ok content => .ok content (file, next)
    | .error fault => .error fault (file, place)
  writes : ∀ number data, ∃ next, (writeInPlace number data).run (file, place) =
    match file.write number data with
    | .ok written => .ok () (written, next)
    | .error fault => .error fault (file, place)
  appends : ∀ data, ∃ next, (appendInPlace data).run (file, place) =
    match file.append data with
    | .ok (extended, added) => .ok added (extended, next)
    | .error fault => .error fault (file, place)

theorem arrayed {file : PagedFile} (positive : 0 < file.pageSize) : file.Arrayed where
  counts := rfl
  told := Nat.mod_eq_of_lt
  reads := by
    intro number below
    have inside := (lt_pageCount_iff positive).mp below
    refine ⟨_, read_eq_ok.mpr ⟨inside, rfl⟩, ?_, ?_⟩
    · rw [List.length_take, List.length_drop]
      omega
    · intro index within
      rw [List.getElem?_take_of_lt within, List.getElem?_drop]
  beyond := by
    intro number above
    exact read_of_short
      (Nat.not_le.mp (mt (lt_pageCount_iff positive).mpr (Nat.not_lt.mpr above)))
  writes := by
    intro number data fits
    exact ⟨_, write_of_fits fits number, rfl, overlaid_splice _ _ _⟩
  appends := by
    intro data fits
    refine ⟨file.put file.pageCount data, ?_, rfl, overlaid_splice _ _ _,
      pageCount_put_pageCount positive fits⟩
    unfold append
    rw [write_of_fits fits]
    rfl
  misfit := by
    rintro number length data misfits rfl
    refine ⟨read_of_misfit misfits number, write_of_misfit misfits number, ?_⟩
    unfold append
    rw [write_of_misfit misfits]
    rfl

theorem stepwise (file : PagedFile) (place : Nat) : file.Stepwise place where
  counts := run_countInPlace file place
  reads := fun number length => ⟨_, run_readInPlace file place number length⟩
  writes := fun number data => ⟨_, run_writeInPlace file place number data⟩
  appends := fun data => ⟨_, run_appendInPlace file place data⟩

/-- Whatever bytes a file has at first and whatever calls are made on it, it is an array of pages.
One that was begun empty has whole pages only. Calls that are made on the open file, step by step,
leave the same file, and one that fails leaves the file alone. -/
theorem paged_files_are_arrays_of_pages (start : PagedFile) (calls : List Call)
    (positive : 0 < start.pageSize) :
    let file := start.afterEach calls
    file.pageSize = start.pageSize ∧ file.Arrayed ∧
      (∀ volume path created, Volume.openFile volume path .truncating = .ok created →
        start.bytes = created.bytes path → start.pageSize ∣ file.bytes.length) ∧
      ∀ place, (callEach (start, place) calls).1 = file ∧ file.Stepwise place := by
  intro file
  have sameSize : file.pageSize = start.pageSize := start.pageSize_afterEach calls
  refine ⟨sameSize, arrayed (sameSize ▸ positive), ?_, ?_⟩
  · intro volume path created creates begun
    have whole : start.pageSize ∣ start.bytes.length := by
      rw [begun, Volume.bytes_of_truncating creates]
      exact Nat.dvd_zero _
    exact dvd_length_afterEach whole calls
  · intro place
    exact ⟨fst_callEach (start, place) calls, file.stepwise place⟩

/-- A page is appended over a tail of two bytes, another is written with a gap before it, and two
calls fail. The same calls on the file begun anew leave no tail. -/
theorem paged_files_are_arrays_of_pages_over_tail :
    let volume := Volume.empty.write "rows" [1, 2, 3, 4, 5, 6]
    let created := volume.write "rows" []
    let calls : List Call :=
      [.append [7, 7, 7, 7], .read 2 4, .write 3 [9, 9, 9, 9], .write 0 [1]]
    let start : PagedFile := ⟨4, volume.bytes "rows"⟩
    let kept := start.afterEach calls
    let begun := (PagedFile.mk 4 (created.bytes "rows")).afterEach calls
    kept = ⟨4, [1, 2, 3, 4, 7, 7, 7, 7, 0, 0, 0, 0, 9, 9, 9, 9]⟩ ∧ kept.Arrayed ∧
      callEach (start, 0) calls = (kept, 16) ∧ kept.Stepwise 16 ∧
      volume.openFile "rows" .truncating = .ok created ∧
      begun = ⟨4, [7, 7, 7, 7, 0, 0, 0, 0, 0, 0, 0, 0, 9, 9, 9, 9]⟩ ∧
      4 ∣ begun.bytes.length := by
  intro volume created calls start kept begun
  have creates : volume.openFile "rows" .truncating = .ok created :=
    Volume.Admits.openFile ⟨by decide +kernel, by decide +kernel⟩ .truncating
  have positive : 0 < 4 := by decide
  obtain ⟨_, keptArrayed, _, steps⟩ := paged_files_are_arrays_of_pages start calls positive
  obtain ⟨_, _, whole, _⟩ :=
    paged_files_are_arrays_of_pages ⟨4, created.bytes "rows"⟩ calls positive
  exact ⟨by decide +kernel, keptArrayed, by decide +kernel, (steps 16).2, creates,
    by decide +kernel, whole volume "rows" created creates rfl⟩

end RowStore.PagedFile
