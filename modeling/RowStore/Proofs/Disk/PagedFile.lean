import RowStore.Disk.PagedFile

/-!
Paged files: a page that was written is read back, and every other page that the file reaches is
read as before.
-/

set_option autoImplicit false

namespace RowStore.PagedFile

/-! ### Bytes -/

theorem length_filled (bytes : List UInt8) (offset : Nat) :
    (bytes.take offset ++ List.replicate (offset - bytes.length) 0).length = offset := by
  rw [List.length_append, List.length_take, List.length_replicate]
  omega

theorem length_splice (bytes data : List UInt8) (offset : Nat) :
    (splice bytes offset data).length = max bytes.length (offset + data.length) := by
  unfold splice
  simp only [List.length_append, List.length_take, List.length_replicate, List.length_drop]
  omega

theorem length_splice_inside {bytes data : List UInt8} {offset : Nat}
    (inside : offset + data.length ≤ bytes.length) :
    (splice bytes offset data).length = bytes.length := by
  rw [length_splice, Nat.max_eq_left inside]

theorem getElem?_splice (bytes data : List UInt8) (offset position : Nat) :
    (splice bytes offset data)[position]? =
      if position < offset then
        if position < bytes.length then bytes[position]? else some 0
      else if position < offset + data.length then data[position - offset]?
      else bytes[position]? := by
  have front := length_filled bytes offset
  unfold splice
  rw [List.append_assoc]
  by_cases before : position < offset
  · rw [if_pos before, List.getElem?_append_left (by omega)]
    by_cases inside : position < bytes.length
    · rw [if_pos inside, List.getElem?_append_left (by rw [List.length_take]; omega),
        List.getElem?_take_of_lt before]
    · rw [if_neg inside, List.getElem?_append_right (by rw [List.length_take]; omega),
        List.getElem?_replicate_of_lt (by rw [List.length_take]; omega)]
  · rw [if_neg before, List.getElem?_append_right (by omega), front]
    by_cases within : position < offset + data.length
    · rw [if_pos within, List.getElem?_append_left (by omega)]
    · rw [if_neg within, List.getElem?_append_right (by omega), List.getElem?_drop]
      congr 1
      omega

theorem read_splice_of_apart {bytes data : List UInt8} {offset other length : Nat}
    (reaches : other + length ≤ bytes.length)
    (apart : other + length ≤ offset ∨ offset + data.length ≤ other) :
    ((splice bytes offset data).drop other).take length = (bytes.drop other).take length := by
  apply List.ext_getElem?
  intro index
  rw [List.getElem?_take, List.getElem?_take, List.getElem?_drop, List.getElem?_drop]
  by_cases within : index < length
  · rw [if_pos within, if_pos within, getElem?_splice]
    rcases apart with before | behind
    · rw [if_pos (by omega), if_pos (by omega)]
    · rw [if_neg (by omega), if_neg (by omega)]
  · rw [if_neg within, if_neg within]

theorem read_splice_self (bytes data : List UInt8) (offset : Nat) :
    ((splice bytes offset data).drop offset).take data.length = data := by
  unfold splice
  rw [List.append_assoc, List.drop_left' (length_filled bytes offset), List.take_left]

/-! ### Pages -/

variable {file : PagedFile} {number : Nat} {data : List UInt8}

theorem read_eq_ok : file.read number file.pageSize = .ok data ↔
    number * file.pageSize + file.pageSize ≤ file.bytes.length ∧
      data = (file.bytes.drop (number * file.pageSize)).take file.pageSize := by
  unfold read checkLength
  simp only [if_true, bind, Except.bind]
  by_cases short : file.bytes.length < number * file.pageSize + file.pageSize
  · rw [if_pos short]
    constructor
    · intro impossible
      cases impossible
    · intro both
      exact absurd both.1 (Nat.not_le.mpr short)
  · rw [if_neg short]
    constructor
    · intro same
      cases same
      exact ⟨Nat.not_lt.mp short, rfl⟩
    · rintro ⟨_, rfl⟩
      rfl

theorem lt_pageCount_iff (positive : 0 < file.pageSize) : number < file.pageCount ↔
    number * file.pageSize + file.pageSize ≤ file.bytes.length := by
  rw [← Nat.succ_mul]
  exact Nat.le_div_iff_mul_le positive

theorem pageSize_pos (present : number < file.pageCount) : 0 < file.pageSize := by
  apply Nat.pos_of_ne_zero
  intro none
  rw [pageCount, none, Nat.div_zero] at present
  exact Nat.not_lt_zero number present

theorem length_lt_of_positive (positive : 0 < file.pageSize) :
    file.bytes.length < file.pageCount * file.pageSize + file.pageSize :=
  Nat.lt_div_mul_add positive

theorem eq_nil_of_read_pageCount (read : file.read file.pageCount file.pageSize = .ok data) :
    file.pageSize = 0 ∧ data = [] := by
  obtain ⟨reaches, rfl⟩ := read_eq_ok.mp read
  rcases Nat.eq_zero_or_pos file.pageSize with none | positive
  · rw [none]
    exact ⟨rfl, rfl⟩
  · exact absurd reaches (Nat.not_le.mpr (length_lt_of_positive positive))

theorem apart_of_ne {other : Nat} (pageSize : Nat) (different : other ≠ number) :
    other * pageSize + pageSize ≤ number * pageSize ∨
      number * pageSize + pageSize ≤ other * pageSize := by
  rw [← Nat.succ_mul, ← Nat.succ_mul]
  exact (Nat.lt_or_gt_of_ne different).imp (Nat.mul_le_mul_right pageSize)
    (Nat.mul_le_mul_right pageSize)

theorem read_put_self (length : data.length = file.pageSize) :
    (file.put number data).read number file.pageSize = .ok data := by
  have back := read_splice_self file.bytes data (number * file.pageSize)
  have reaches := length_splice file.bytes data (number * file.pageSize)
  rw [length] at back reaches
  exact read_eq_ok.mpr ⟨reaches ▸ Nat.le_max_right _ _, back.symm⟩

/-- Data no longer than a page, put where one begins, leave every other page as it was. -/
theorem read_put_of_ne {other : Nat} {image : List UInt8} (length : data.length ≤ file.pageSize)
    (different : other ≠ number) (read : file.read other file.pageSize = .ok image) :
    (file.put number data).read other file.pageSize = .ok image := by
  obtain ⟨reaches, rfl⟩ := read_eq_ok.mp read
  have apart : other * file.pageSize + file.pageSize ≤ number * file.pageSize ∨
      number * file.pageSize + data.length ≤ other * file.pageSize :=
    (apart_of_ne file.pageSize different).imp_right
      (Nat.le_trans (Nat.add_le_add_left length _))
  have grown := length_splice file.bytes data (number * file.pageSize)
  refine read_eq_ok.mpr ⟨?_, (read_splice_of_apart reaches apart).symm⟩
  exact Nat.le_trans reaches (grown ▸ Nat.le_max_left _ _)

theorem read_put_short {image : List UInt8} (length : data.length ≤ file.pageSize)
    (read : file.read number file.pageSize = .ok image) :
    (file.put number data).read number file.pageSize = .ok (data ++ image.drop data.length) := by
  obtain ⟨reaches, rfl⟩ := read_eq_ok.mp read
  have grown := length_splice file.bytes data (number * file.pageSize)
  refine read_eq_ok.mpr ⟨Nat.le_trans reaches (grown ▸ Nat.le_max_left _ _), ?_⟩
  change _ = ((splice file.bytes (number * file.pageSize) data).drop
    (number * file.pageSize)).take file.pageSize
  apply List.ext_getElem?
  intro index
  rw [List.getElem?_append]
  by_cases inside : index < data.length
  · rw [if_pos inside, List.getElem?_take_of_lt (Nat.lt_of_lt_of_le inside length),
      List.getElem?_drop, getElem?_splice, if_neg (by omega), if_pos (by omega),
      Nat.add_sub_cancel_left]
  · have behind : (splice file.bytes (number * file.pageSize) data)[number * file.pageSize +
        index]? = file.bytes[number * file.pageSize + index]? := by
      rw [getElem?_splice, if_neg (by omega), if_neg (by omega)]
    rw [if_neg inside, List.getElem?_drop, Nat.add_sub_cancel' (Nat.not_lt.mp inside),
      List.getElem?_take, List.getElem?_take, List.getElem?_drop, List.getElem?_drop, behind]

theorem read_putInPart_of_ne {other written : Nat} {image : List UInt8}
    (length : data.length ≤ file.pageSize) (different : other ≠ number)
    (read : file.read other file.pageSize = .ok image) :
    (file.putInPart number data written).read other file.pageSize = .ok image := by
  unfold putInPart
  split
  · exact read
  · exact read_put_of_ne (Nat.le_trans (List.length_take_le' _ _) length) different read

theorem read_putInPart {written : Nat} {image : List UInt8} (length : data.length ≤ file.pageSize)
    (read : file.read number file.pageSize = .ok image) :
    (file.putInPart number data written).read number file.pageSize =
      .ok (data.take written ++ image.drop (data.take written).length) := by
  unfold putInPart
  split
  · rename_i none
    rw [none, List.take_zero]
    exact read
  · exact read_put_short (Nat.le_trans (List.length_take_le' _ _) length) read

/-- A page that can be read once part of the data was put behind the last page has all of them. -/
theorem read_putInPart_new {written : Nat} {image : List UInt8}
    (length : data.length = file.pageSize)
    (absent : file.bytes.length < number * file.pageSize + file.pageSize)
    (read : (file.putInPart file.pageCount data written).read number file.pageSize = .ok image) :
    image = data := by
  have positive : 0 < file.pageSize := by
    apply Nat.pos_of_ne_zero
    intro none
    rw [none] at absent
    exact Nat.not_lt_zero _ absent
  have behind : file.pageCount ≤ number := by
    rw [← Nat.not_lt, lt_pageCount_iff positive]
    exact Nat.not_le.mpr absent
  unfold putInPart at read
  split at read
  · exact absurd (read_eq_ok.mp read).1 (Nat.not_le.mpr absent)
  · have reaches : number * file.pageSize + file.pageSize ≤
        (splice file.bytes (file.pageCount * file.pageSize) (data.take written)).length :=
      (read_eq_ok.mp read).1
    rw [length_splice] at reaches
    have part := List.length_take_le' written data
    have before := Nat.mul_le_mul_right file.pageSize behind
    have same : file.pageCount = number := by
      apply Nat.le_antisymm behind
      apply Nat.le_of_mul_le_mul_right _ positive
      omega
    have whole : data.take written = data := by
      apply List.take_of_length_le
      rw [List.length_take] at reaches
      omega
    rw [whole, same, read_put_self length] at read
    exact (Except.ok.inj read).symm

/-- A page that is put behind the last one, over a tail, is one page more. -/
theorem pageCount_put_pageCount (positive : 0 < file.pageSize)
    (fits : data.length = file.pageSize) :
    (file.put file.pageCount data).pageCount = file.pageCount + 1 := by
  have short := Nat.le_of_lt (length_lt_of_positive positive)
  unfold put
  rw [pageCount, length_splice, fits, Nat.max_eq_right short, ← Nat.succ_mul,
    Nat.mul_div_cancel _ positive]

end RowStore.PagedFile
