import RowStore.Text.Utf8

/-!
Encoded text: reading gives back what was written and only what can be written, and cutting a text
keeps it within the room, and whole when it fits.
-/

set_option autoImplicit false

namespace RowStore.Utf8

/-! ### Reading and writing -/

theorem encodeChars_cons (character : Char) (rest : List Char) :
    encodeChars (character :: rest) = String.utf8EncodeChar character ++ encodeChars rest := rfl

private theorem utf8DecodeChar?_of_prefix (character : Char) (rest : List UInt8) :
    (String.utf8EncodeChar character ++ rest).toByteArray.utf8DecodeChar? 0 = some character := by
  rw [List.toByteArray_append]
  exact ByteArray.utf8DecodeChar?_utf8EncodeChar_append

theorem leading?_encode_append (character : Char) (rest : List UInt8) :
    leading? (String.utf8EncodeChar character ++ rest) = some character := by
  have fits : (String.utf8EncodeChar character).length ≤ 4 := by
    rw [String.length_utf8EncodeChar]
    exact character.utf8Size_le_four
  unfold leading?
  rw [List.take_append, List.take_of_length_le fits]
  exact utf8DecodeChar?_of_prefix character _

theorem eq_append_of_leading? {bytes : List UInt8} {character : Char}
    (leads : leading? bytes = some character) :
    bytes = String.utf8EncodeChar character ++ bytes.drop character.utf8Size := by
  obtain ⟨rest, split⟩ := ByteArray.exists_of_utf8DecodeChar?_eq_some leads
  have front : bytes.take 4 = String.utf8EncodeChar character ++ rest.data.toList := by
    have lists := congrArg (fun array : ByteArray => array.data.toList) split
    simpa only [ByteArray.data_append, Array.toList_append, List.toList_data_toByteArray] using
      lists
  have leading : String.utf8EncodeChar character <+: bytes :=
    List.IsPrefix.trans ⟨rest.data.toList, front.symm⟩ (List.take_prefix 4 bytes)
  obtain ⟨behind, whole⟩ := leading
  rw [← whole, ← String.length_utf8EncodeChar character, List.drop_left]

theorem decodeFrom_encodeChars (start : Nat) (characters : List Char) :
    decodeFrom start (encodeChars characters) = .ok characters := by
  induction characters generalizing start with
  | nil => rw [encodeChars, List.flatMap_nil, decodeFrom]
  | cons character rest ih =>
      have leads := leading?_encode_append character (encodeChars rest)
      have size := String.length_utf8EncodeChar character
      rw [encodeChars_cons]
      cases spelled : String.utf8EncodeChar character with
      | nil => exact absurd spelled String.utf8EncodeChar_ne_nil
      | cons byte bytes =>
          rw [spelled, List.cons_append] at leads
          rw [spelled, List.length_cons] at size
          rw [List.cons_append, decodeFrom, leads]
          dsimp only
          rw [← size, Nat.add_sub_cancel, List.drop_left, ih]
          rfl

theorem decode_encode (text : String) : decode (encode text) = .ok text := by
  unfold decode encode
  rw [decodeFrom_encodeChars]
  simp [Except.map]

theorem encodeChars_of_decodeFrom {start : Nat} {bytes : List UInt8} {characters : List Char}
    (read : decodeFrom start bytes = .ok characters) : encodeChars characters = bytes := by
  induction start, bytes using decodeFrom.induct generalizing characters with
  | case1 start =>
      rw [decodeFrom] at read
      cases read
      rfl
  | case2 start byte rest failed =>
      rw [decodeFrom, failed] at read
      cases read
  | case3 start byte rest character leads ih =>
      rw [decodeFrom, leads] at read
      dsimp only at read
      cases later : decodeFrom (start + character.utf8Size)
          (rest.drop (character.utf8Size - 1)) with
      | error fault =>
          rw [later] at read
          cases read
      | ok others =>
          rw [later] at read
          cases read
          have positive := character.utf8Size_pos
          have behind : (byte :: rest).drop character.utf8Size =
              rest.drop (character.utf8Size - 1) := by
            rw [← Nat.sub_add_cancel positive, List.drop_succ_cons, Nat.add_sub_cancel]
          rw [encodeChars_cons, ih later, ← behind]
          exact (eq_append_of_leading? leads).symm

theorem encode_of_decode {bytes : List UInt8} {text : String}
    (read : decode bytes = .ok text) : encode text = bytes := by
  unfold decode at read
  cases found : decodeFrom 0 bytes with
  | error fault =>
      rw [found] at read
      cases read
  | ok characters =>
      rw [found] at read
      cases read
      unfold encode
      rw [String.toList_ofList]
      exact encodeChars_of_decodeFrom found

/-! ### Cutting -/

theorem length_encodeChars_clipChars_le (room : Nat) (characters : List Char) :
    (encodeChars (clipChars room characters)).length ≤ room := by
  induction characters generalizing room with
  | nil => exact Nat.zero_le room
  | cons character rest ih =>
      unfold clipChars
      split
      · have later := ih (room - character.utf8Size)
        rw [encodeChars_cons, List.length_append, String.length_utf8EncodeChar]
        omega
      · exact Nat.zero_le room

theorem clipChars_of_length_le {room : Nat} {characters : List Char}
    (fits : (encodeChars characters).length ≤ room) : clipChars room characters = characters := by
  induction characters generalizing room with
  | nil => rfl
  | cons character rest ih =>
      rw [encodeChars_cons, List.length_append, String.length_utf8EncodeChar] at fits
      unfold clipChars
      rw [if_pos (by omega), ih (by omega)]

theorem clipChars_prefix (room : Nat) (characters : List Char) :
    clipChars room characters <+: characters := by
  induction characters generalizing room with
  | nil => exact List.prefix_rfl
  | cons character rest ih =>
      unfold clipChars
      split
      · exact List.cons_prefix_cons.mpr ⟨rfl, ih _⟩
      · exact List.nil_prefix

theorem prefix_clipChars {room : Nat} {leading characters : List Char}
    (leads : leading <+: characters) (fits : (encodeChars leading).length ≤ room) :
    leading <+: clipChars room characters := by
  induction characters generalizing room leading with
  | nil =>
      rw [List.prefix_nil.mp leads]
      exact List.nil_prefix
  | cons character rest ih =>
      cases leading with
      | nil => exact List.nil_prefix
      | cons first more =>
          obtain ⟨rfl, leadsRest⟩ := List.cons_prefix_cons.mp leads
          rw [encodeChars_cons, List.length_append, String.length_utf8EncodeChar] at fits
          have fitsFirst : first.utf8Size ≤ room := by omega
          unfold clipChars
          rw [if_pos fitsFirst]
          exact List.cons_prefix_cons.mpr ⟨rfl, ih leadsRest (by omega)⟩

theorem length_encode_clip_le (room : Nat) (text : String) :
    (encode (clip room text)).length ≤ room := by
  unfold encode clip
  rw [String.toList_ofList]
  exact length_encodeChars_clipChars_le room text.toList

theorem clip_of_length_le {room : Nat} {text : String} (fits : (encode text).length ≤ room) :
    clip room text = text := by
  unfold clip
  rw [clipChars_of_length_le fits, String.ofList_toList]

end RowStore.Utf8
