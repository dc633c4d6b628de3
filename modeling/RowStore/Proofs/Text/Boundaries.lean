import RowStore.Proofs.Text.Utf8

/-!
Character boundaries: the indices at which the bytes of a text may be cut. Walking back from the
room that there is to the nearest boundary cuts a text just where the longest run of leading
characters ends.
-/

set_option autoImplicit false

namespace RowStore.Utf8

def isBoundary (bytes : List UInt8) (index : Nat) : Bool :=
  index == 0 ||
    match bytes[index]? with
    | none => index == bytes.length
    | some byte => !continuation.admits byte

def lastBoundary (bytes : List UInt8) : Nat → Nat
  | 0 => 0
  | index + 1 => if isBoundary bytes (index + 1) then index + 1 else lastBoundary bytes index

/-! ### The bytes of one character -/

private theorem admits_ofNat {number : Nat} (small : number < 256) :
    continuation.admits (UInt8.ofNat number) = decide (128 ≤ number ∧ number ≤ 191) := by
  have value : (UInt8.ofNat number).toNat = number := by
    rw [UInt8.toNat_ofNat']
    exact Nat.mod_eq_of_lt small
  simp only [ByteRange.admits, continuation, UInt8.le_iff_toNat_le, value, Bool.decide_and]
  rfl

theorem exists_spelling (character : Char) :
    ∃ lead tail, String.utf8EncodeChar character = lead :: tail ∧
      continuation.admits lead = false ∧ ∀ byte ∈ tail, continuation.admits byte = true := by
  have continues (number : Nat) : continuation.admits (UInt8.ofNat (number % 64 + 128)) = true := by
    rw [admits_ofNat (by omega), decide_eq_true_eq]
    omega
  simp only [String.utf8EncodeChar]
  split
  · refine ⟨_, _, rfl, ?_, List.forall_mem_nil _⟩
    rw [admits_ofNat (by omega), decide_eq_false_iff_not]
    omega
  · split
    · refine ⟨_, _, rfl, ?_, ?_⟩
      · rw [admits_ofNat (by omega), decide_eq_false_iff_not]
        omega
      · simp only [List.forall_mem_cons, continues, true_and]
        exact List.forall_mem_nil _
    · split
      · refine ⟨_, _, rfl, ?_, ?_⟩
        · rw [admits_ofNat (by omega), decide_eq_false_iff_not]
          omega
        · simp only [List.forall_mem_cons, continues, true_and]
          exact List.forall_mem_nil _
      · refine ⟨_, _, rfl, ?_, ?_⟩
        · rw [admits_ofNat (by omega), decide_eq_false_iff_not]
          omega
        · simp only [List.forall_mem_cons, continues, true_and]
          exact List.forall_mem_nil _

/-! ### The boundaries of a text -/

private theorem isBoundary_first {characters : List Char} {byte : UInt8}
    (found : (encodeChars characters)[0]? = some byte) : continuation.admits byte = false := by
  cases characters with
  | nil => cases found
  | cons character rest =>
      obtain ⟨lead, tail, spelled, leads, _⟩ := exists_spelling character
      rw [encodeChars_cons, spelled] at found
      cases found
      exact leads

private theorem isBoundary_append (character : Char) (rest : List Char) (index : Nat) :
    isBoundary (encodeChars (character :: rest)) (character.utf8Size + index) =
      isBoundary (encodeChars rest) index := by
  have positive := character.utf8Size_pos
  have behind : (encodeChars (character :: rest))[character.utf8Size + index]? =
      (encodeChars rest)[index]? := by
    rw [encodeChars_cons, ← String.length_utf8EncodeChar, List.getElem?_append_right
      (Nat.le_add_right _ _), Nat.add_sub_cancel_left]
  have notFirst : (character.utf8Size + index == 0) = false := by
    rw [beq_eq_false_iff_ne]
    omega
  unfold isBoundary
  rw [behind, notFirst, Bool.false_or, encodeChars_cons, List.length_append,
    String.length_utf8EncodeChar]
  cases found : (encodeChars rest)[index]? with
  | none =>
      have beyond := List.getElem?_eq_none_iff.mp found
      rw [Bool.eq_iff_iff]
      simp only [Bool.or_eq_true, beq_iff_eq]
      omega
  | some byte =>
      cases index with
      | zero => simp [isBoundary_first found]
      | succ index => simp

private theorem isBoundary_inside {character : Char} {rest : List Char} {index : Nat}
    (positive : 0 < index) (inside : index < character.utf8Size) :
    isBoundary (encodeChars (character :: rest)) index = false := by
  obtain ⟨lead, tail, spelled, _, continues⟩ := exists_spelling character
  have size := String.length_utf8EncodeChar character
  rw [spelled, List.length_cons] at size
  obtain ⟨before, rfl⟩ := Nat.exists_eq_add_of_lt positive
  rw [Nat.zero_add] at inside ⊢
  have short : before < tail.length := by omega
  have found : (encodeChars (character :: rest))[before + 1]? = some tail[before] := by
    rw [encodeChars_cons, spelled, List.cons_append, List.getElem?_cons_succ,
      List.getElem?_append_left short, List.getElem?_eq_getElem short]
  unfold isBoundary
  rw [found]
  simp [continues _ (List.getElem_mem short)]

theorem isBoundary_encodeChars {characters : List Char} {index : Nat} :
    isBoundary (encodeChars characters) index = true ↔
      ∃ leading, leading <+: characters ∧ (encodeChars leading).length = index := by
  induction characters generalizing index with
  | nil =>
      simp only [List.prefix_nil, exists_eq_left]
      cases index <;> simp [isBoundary, encodeChars]
  | cons character rest ih =>
      constructor
      · intro boundary
        by_cases first : index = 0
        · exact ⟨[], List.nil_prefix, first.symm⟩
        · have behind : character.utf8Size ≤ index := by
            apply Nat.le_of_not_lt
            intro inside
            rw [isBoundary_inside (Nat.pos_of_ne_zero first) inside] at boundary
            cases boundary
          obtain ⟨later, rfl⟩ := Nat.exists_eq_add_of_le behind
          rw [isBoundary_append] at boundary
          obtain ⟨leading, leads, ends⟩ := ih.mp boundary
          refine ⟨character :: leading, List.cons_prefix_cons.mpr ⟨rfl, leads⟩, ?_⟩
          rw [encodeChars_cons, List.length_append, String.length_utf8EncodeChar, ends]
      · rintro ⟨leading, leads, rfl⟩
        cases leading with
        | nil => rfl
        | cons other more =>
            obtain ⟨rfl, leadsRest⟩ := List.cons_prefix_cons.mp leads
            have length : (encodeChars (other :: more)).length =
                other.utf8Size + (encodeChars more).length := by
              rw [encodeChars_cons, List.length_append, String.length_utf8EncodeChar]
            rw [length, isBoundary_append]
            exact ih.mpr ⟨more, leadsRest, rfl⟩

/-! ### Walking back -/

theorem lastBoundary_le (bytes : List UInt8) (index : Nat) : lastBoundary bytes index ≤ index := by
  induction index with
  | zero => exact Nat.le_refl 0
  | succ index ih =>
      unfold lastBoundary
      split
      · exact Nat.le_refl _
      · exact Nat.le_succ_of_le ih

theorem isBoundary_lastBoundary (bytes : List UInt8) (index : Nat) :
    isBoundary bytes (lastBoundary bytes index) = true := by
  induction index with
  | zero => rfl
  | succ index ih =>
      unfold lastBoundary
      split
      · assumption
      · exact ih

theorem le_lastBoundary {bytes : List UInt8} {boundary index : Nat}
    (isOne : isBoundary bytes boundary = true) (within : boundary ≤ index) :
    boundary ≤ lastBoundary bytes index := by
  induction index with
  | zero => exact within
  | succ index ih =>
      unfold lastBoundary
      split
      · exact within
      · rename_i notHere
        apply ih
        rcases Nat.le_succ_iff.mp within with earlier | here
        · exact earlier
        · rw [here] at isOne
          exact absurd isOne notHere

theorem encode_clip (room : Nat) (text : String) :
    encode (clip room text) = encodeChars (clipChars room text.toList) := by
  unfold encode clip
  rw [String.toList_ofList]

theorem exists_encode_eq_append (room : Nat) (text : String) :
    ∃ rest, encode text = encode (clip room text) ++ rest := by
  obtain ⟨rest, whole⟩ := clipChars_prefix room text.toList
  refine ⟨encodeChars rest, ?_⟩
  calc encode text
      = encodeChars (clipChars room text.toList ++ rest) := congrArg encodeChars whole.symm
    _ = encodeChars (clipChars room text.toList) ++ encodeChars rest := List.flatMap_append
    _ = encode (clip room text) ++ encodeChars rest := by rw [encode_clip]

/-- Walking back from the end of the text, or from the end of the room, comes to the end of the
longest run of leading characters that fits. -/
theorem lastBoundary_encode (room : Nat) (text : String) :
    lastBoundary (encode text) (min (encode text).length room) =
      (encode (clip room text)).length := by
  have fits := length_encode_clip_le room text
  have short : (encode (clip room text)).length ≤ (encode text).length := by
    obtain ⟨rest, whole⟩ := exists_encode_eq_append room text
    rw [whole, List.length_append]
    exact Nat.le_add_right _ _
  apply Nat.le_antisymm
  -- A boundary is the end of some run of leading characters, which fits and so is no longer.
  · obtain ⟨leading, leads, ends⟩ := isBoundary_encodeChars.mp
      (isBoundary_lastBoundary (encode text) (min (encode text).length room))
    have within := lastBoundary_le (encode text) (min (encode text).length room)
    obtain ⟨more, same⟩ : leading <+: clipChars room text.toList := by
      apply prefix_clipChars leads
      rw [ends]
      exact Nat.le_trans within (Nat.min_le_right _ _)
    rw [← ends, encode_clip, ← same, encodeChars, encodeChars, List.flatMap_append,
      List.length_append]
    exact Nat.le_add_right _ _
  · apply le_lastBoundary _ (Nat.le_min.mpr ⟨short, fits⟩)
    rw [encode_clip]
    exact isBoundary_encodeChars.mpr ⟨_, clipChars_prefix room text.toList, rfl⟩

theorem take_lastBoundary (room : Nat) (text : String) :
    (encode text).take (lastBoundary (encode text) (min (encode text).length room)) =
      encode (clip room text) := by
  obtain ⟨rest, whole⟩ := exists_encode_eq_append room text
  rw [lastBoundary_encode]
  generalize encode (clip room text) = cut at whole ⊢
  rw [whole]
  exact List.take_left

end RowStore.Utf8
