import FileShare.Proofs.Text.Separated
import FileShare.Proofs.Url.Percent
import FileShare.Url.Basic

/-!
# Pairs read back from the query

A pair that is added to a query is read back as its last pair, and the pairs in front of it
are read as before.  What is written for a name or a value holds neither of the two marks, and
the plus sign in it always stands for a space.
-/

set_option autoImplicit false

namespace FileShare

namespace Form

/-- What is written for a name or a value: the sign for a space, plain characters and
escapes. -/
theorem mem_encodePart {text : Text} {c : Char} (member : c ∈ encodePart text) :
    c = '+' ∨ c.toNat < 0x80 ∧ (isPlain c = true ∨ Percent.isEscapeChar c = true) := by
  obtain ⟨d, _, written⟩ := List.mem_flatMap.mp member
  split at written
  · exact Or.inl (List.mem_singleton.mp written)
  · have single : c ∈ Percent.encode (!isPlain ·) [d] := by
      simpa [Percent.encode] using written
    obtain ⟨ascii, plain | escape⟩ := Percent.mem_encode single
    · exact Or.inr ⟨ascii, Or.inl (by simpa using plain.2)⟩
    · exact Or.inr ⟨ascii, Or.inr escape⟩

theorem encodePart_ascii (text : Text) : ∀ c ∈ encodePart text, c.toNat < 0x80 := by
  intro c member
  rcases mem_encodePart member with rfl | ⟨ascii, -⟩
  · decide
  · exact ascii

/-- The marks between the parts of a query stand in none of them. -/
theorem not_mem_encodePart {mark : Char} (isMark : mark = '&' ∨ mark = '=') (text : Text) :
    mark ∉ encodePart text := by
  intro member
  rcases isMark with rfl | rfl
  · rcases mem_encodePart member with plus | ⟨-, plain | escape⟩
    · exact absurd plus (by decide)
    · exact absurd plain (by decide)
    · exact absurd escape (by decide)
  · rcases mem_encodePart member with plus | ⟨-, plain | escape⟩
    · exact absurd plus (by decide)
    · exact absurd plain (by decide)
    · exact absurd escape (by decide)

/-- The bytes with the sign for a space read. -/
def spaced (bytes : Bytes) : Bytes := bytes.map fun b => if b = 43 then 32 else b

theorem spaced_encodeChar (c : Char) :
    spaced (Text.asciiBytes (Percent.encodeChar (!isPlain ·) c)) =
      Text.asciiBytes (Percent.encodeChar (!isPlain ·) c) := by
  have single : Percent.encodeChar (!isPlain ·) c = Percent.encode (!isPlain ·) [c] := by
    simp [Percent.encode]
  have noPlus : '+' ∉ Percent.encode (!isPlain ·) [c] :=
    Percent.not_mem_encode (by decide) (by decide) [c]
  rw [single]
  refine (List.map_congr_left fun byte member => ?_).trans (List.map_id _)
  have different : byte ≠ 43 := by
    rintro rfl
    exact Text.byte_not_mem_asciiBytes (by decide : '+'.toNat < 0x80) (Percent.encode_ascii [c])
      noPlus member
  rw [if_neg different, id]

theorem decode_spaced_encodePart (text : Text) :
    Percent.decode (spaced (Text.asciiBytes (encodePart text))) = Text.Utf8.encode text := by
  induction text with
  | nil => rfl
  | cons c rest ih =>
      have split : encodePart (c :: rest) =
          (if c = ' ' then ['+'] else Percent.encodeChar (!isPlain ·) c) ++ encodePart rest := rfl
      have written : spaced (Text.asciiBytes (encodePart (c :: rest))) =
          spaced (Text.asciiBytes (if c = ' ' then ['+'] else Percent.encodeChar (!isPlain ·) c)) ++
            spaced (Text.asciiBytes (encodePart rest)) := by
        rw [split, Text.asciiBytes_append, spaced, List.map_append]
        rfl
      have encoded : Text.Utf8.encode (c :: rest) =
          Text.Utf8.encodeChar c ++ Text.Utf8.encode rest := rfl
      rw [written, encoded, ← ih]
      by_cases blank : c = ' '
      · rw [if_pos blank, blank]
        exact Percent.decode_cons (by decide) _
      · rw [if_neg blank, spaced_encodeChar]
        exact Percent.decode_encodeChar (by decide) c _

theorem decodePart_encodePart (text : Text) :
    decodePart (Text.Utf8.encode (encodePart text)) = text := by
  rw [Text.Utf8.encode_ascii (encodePart_ascii text), decodePart]
  exact (congrArg Text.Utf8.decode (decode_spaced_encodePart text)).trans
    (Text.Utf8.decode_encode text)

/-! ## The pair at the end -/

def written (name value : Text) : Text := encodePart name ++ '=' :: encodePart value

theorem encode_written (name value : Text) :
    Text.Utf8.encode (written name value) =
      Text.Utf8.encode (encodePart name) ++ 61 :: Text.Utf8.encode (encodePart value) := by
  rw [written, Text.Utf8.encode_append]
  rfl

theorem encode_free {mark : Char} (isMark : mark = '&' ∨ mark = '=') (text : Text) :
    UInt8.ofNat mark.toNat ∉ Text.Utf8.encode (encodePart text) := by
  rw [Text.Utf8.encode_ascii (encodePart_ascii text)]
  refine Text.byte_not_mem_asciiBytes ?_ (encodePart_ascii text) (not_mem_encodePart isMark text)
  rcases isMark with rfl | rfl <;> decide

theorem pairOf_written (name value : Text) :
    pairOf (Text.Utf8.encode (written name value)) = (name, value) := by
  have cut : Text.cut 61 (Text.Utf8.encode (written name value)) =
      (Text.Utf8.encode (encodePart name), some (Text.Utf8.encode (encodePart value))) := by
    rw [encode_written]
    exact Text.cut_append (encode_free (Or.inr rfl) name) _
  simp only [pairOf, cut, Option.getD_some, decodePart_encodePart]

theorem pairs_written (name value : Text) : pairs (written name value) = [(name, value)] := by
  have free : 38 ∉ Text.Utf8.encode (written name value) := by
    rw [encode_written]
    intro member
    rcases List.mem_append.mp member with inName | inRest
    · exact encode_free (Or.inl rfl) name inName
    · rcases List.mem_cons.mp inRest with equals | inValue
      · cases equals
      · exact encode_free (Or.inl rfl) value inValue
  have full : (Text.Utf8.encode (written name value)).isEmpty = false := by
    rw [encode_written]
    simp
  simp only [pairs, Text.pieces_of_not_mem free, List.filter_cons, full, Bool.not_false, if_true,
    List.filter_nil, List.map_cons, List.map_nil, pairOf_written]

theorem pairs_append_mark (front rest : Text) :
    pairs (front ++ '&' :: rest) = pairs front ++ pairs rest := by
  have encoded : Text.Utf8.encode (front ++ '&' :: rest) =
      Text.Utf8.encode front ++ 38 :: Text.Utf8.encode rest := by
    rw [Text.Utf8.encode_append]
    rfl
  simp only [pairs, encoded, Text.pieces_append, List.filter_append, List.map_append]

/-- A pair that is added to a query is read behind those that were there. -/
theorem pairs_append (query : Option Text) (name value : Text) :
    pairs (append query name value) = query.elim [] pairs ++ [(name, value)] := by
  match query with
  | none => exact pairs_written name value
  | some [] => exact pairs_written name value
  | some (c :: rest) =>
      have appended : append (some (c :: rest)) name value =
          (c :: rest) ++ '&' :: written name value := by
        simp [append, written]
      rw [appended, pairs_append_mark, pairs_written]
      rfl

end Form

theorem Url.queryPairs_withPair (url : Url) (name value : Text) :
    (url.withPair name value).queryPairs = url.queryPairs ++ [(name, value)] :=
  Form.pairs_append url.query name value

end FileShare
