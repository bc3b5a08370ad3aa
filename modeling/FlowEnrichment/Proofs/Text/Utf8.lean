import FlowEnrichment.Text.Utf8

/-!
# Reading encoded texts

The bytes of a text are read as the characters of the text, each as one symbol. No character is
lost, and none of its bytes is taken for a stray one.
-/
namespace FlowEnrichment.Utf8

/-- The first character of an encoded text is read first, whatever bytes follow. -/
theorem firstChar?_encode (c : Char) (rest : List UInt8) :
    firstChar? (String.utf8EncodeChar c ++ rest) = some c := by
  have short : (String.utf8EncodeChar c).length ≤ 4 := by
    rw [String.length_utf8EncodeChar]
    exact Char.utf8Size_le_four c
  have split : (String.utf8EncodeChar c ++ rest).take 4 =
      String.utf8EncodeChar c ++ rest.take (4 - (String.utf8EncodeChar c).length) := by
    rw [List.take_append, List.take_of_length_le short]
  rw [firstChar?, split, List.toByteArray_append]
  exact ByteArray.utf8DecodeChar?_utf8EncodeChar_append

/-- The bytes of a character, and any others after them, are read as the character first. -/
theorem symbols_encodeChar (c : Char) (rest : List UInt8) :
    symbols (String.utf8EncodeChar c ++ rest) = some c :: symbols rest := by
  have first := firstChar?_encode c rest
  have size := String.length_utf8EncodeChar c
  cases bytes : String.utf8EncodeChar c with
  | nil => exact absurd bytes String.utf8EncodeChar_ne_nil
  | cons byte more =>
    rw [bytes, List.cons_append] at first
    rw [bytes, List.length_cons] at size
    have count : c.utf8Size - 1 = more.length := by omega
    rw [List.cons_append, symbols, first]
    simp only [count, List.drop_left]

/-- Reading the bytes of a text gives its characters. -/
theorem symbols_encode (text : String) : symbols (encode text) = symbolsOf text := by
  unfold encode symbolsOf
  induction text.toList with
  | nil => simp [symbols]
  | cons c rest ih => rw [List.flatMap_cons, symbols_encodeChar, ih, List.map_cons]

end FlowEnrichment.Utf8
