import PulseJoin.Message.Json
import PulseJoin.Proofs.Text.Json.Data

/-!
# Messages through JSON

A message is read from the text it is written as, whatever its channel, its pulse and its bytes
(`Message.read_toJson`).  So what was read from any text, also one that has the payload as a string,
reads back once it is written.
-/

namespace PulseJoin

open Text DataFormat

/-! ## Bytes of texts -/

namespace Text.Json

theorem codePointBytes_toNat (c : Char) : codePointBytes c.toNat = String.utf8EncodeChar c := by
  have hrange : c.val.toNat < 0x110000 := by
    rcases c.valid with hlow | hhigh
    · exact Nat.lt_of_lt_of_le hlow (by decide)
    · exact hhigh.2
  show codePointBytes c.val.toNat = _
  unfold codePointBytes String.utf8EncodeChar
  dsimp only
  generalize c.val.toNat = n at hrange ⊢
  by_cases hone : n ≤ 127
  · rw [if_pos (by omega), if_pos hone]
    rfl
  by_cases htwo : n ≤ 2047
  · have hlead : n / 64 % 32 = n / 64 := Nat.mod_eq_of_lt (by omega)
    rw [if_neg (by omega), if_neg hone, if_pos (by omega), if_pos htwo, hlead]
    simp only [List.map_cons, List.map_nil, Nat.add_comm]
  by_cases hthree : n ≤ 65535
  · have hlead : n / 4096 % 16 = n / 4096 := Nat.mod_eq_of_lt (by omega)
    rw [if_neg (by omega), if_neg hone, if_neg (by omega), if_neg htwo, if_pos (by omega),
      if_pos hthree, hlead]
    simp only [List.map_cons, List.map_nil, Nat.add_comm]
  · have hlead : n / 262144 % 8 = n / 262144 := Nat.mod_eq_of_lt (by omega)
    rw [if_neg (by omega), if_neg hone, if_neg (by omega), if_neg htwo, if_neg (by omega),
      if_neg hthree, hlead]
    simp only [List.map_cons, List.map_nil, Nat.add_comm]

theorem flatMap_bytes_glyphs (s : String) :
    (glyphs s).flatMap Glyph.bytes = s.toUTF8.data.toList := by
  have hbytes : s.toUTF8.data.toList = s.toList.flatMap String.utf8EncodeChar := by
    show s.toByteArray.data.toList = _
    rw [← String.utf8Encode_toList, List.utf8Encode, List.data_toByteArray]
  rw [hbytes, glyphs, List.flatMap_map]
  exact congrArg (s.toList.flatMap ·) (funext codePointBytes_toNat)

end Text.Json

/-! ## Messages -/

namespace Message

open Text.Json (Value)
open Text.Json.Value (Faithful)

theorem byte?_int (b : UInt8) : byte? (.int b.toNat) = some b := by
  have hrange : 0 ≤ (b.toNat : Int) ∧ (b.toNat : Int) < 256 :=
    ⟨Int.natCast_nonneg _, Int.ofNat_lt.2 b.toNat_lt⟩
  rw [byte?, Json.int?_int, Option.bind_some, if_pos hrange]
  simp

theorem payload?_array (bytes : List UInt8) :
    payload? (.array (bytes.map fun b => .int b.toNat)) = some bytes :=
  mapM_map byte?_int bytes

theorem payload?_text (s : String) : payload? (.text s) = some s.toUTF8.data.toList :=
  congrArg some (Json.flatMap_bytes_glyphs s)

/-- The fields of a message as a record, with some value for the payload. -/
def record (channel : String) (p : PulseId) (payload : Value) : Value :=
  .record [("channel", .text channel), ("pulse_id", .int p.toInt), ("payload", payload)]

theorem ofJsonValue?_record {payload : Value} {bytes : List UInt8} (channel : String) (p : PulseId)
    (h : payload? payload = some bytes) :
    ofJsonValue? (record channel p payload) = some ⟨channel, p, bytes⟩ := by
  have hfields : fields? fieldNames (record channel p payload) =
      some [some (.text channel), some (.int p.toInt), some payload] := by
    refine (Json.builder.fields?_table (by simp [fieldNames])).trans ?_
    simp [fieldNames, unique?]
  have htext : text? (Value.text channel) = some channel := Json.text?_glyphs channel
  have hpulse : int64? (Value.int p.toInt) = some p := Json.builder.int64?_int p
  simp [ofJsonValue?, hfields, htext, hpulse, h]

theorem record_faithful {payload : Value} (channel : String) (p : PulseId)
    (h : payload.Faithful) : (record channel p payload).Faithful := by
  refine .record _ fun f hf => ?_
  simp only [List.mem_cons, List.not_mem_nil, or_false] at hf
  rcases hf with rfl | rfl | rfl
  · exact .text _
  · exact .int64 _
  · exact h

/-- A message is read from a record of its fields, if its bytes are read from the payload. -/
theorem ofJson?_record {payload : Value} {bytes : List UInt8} (channel : String) (p : PulseId)
    (hfaithful : payload.Faithful) (h : payload? payload = some bytes) :
    ofJson? (record channel p payload).compact = some ⟨channel, p, bytes⟩ := by
  unfold ofJson?
  rw [Json.read?_compact (record_faithful channel p hfaithful), Option.bind_some,
    ofJsonValue?_record channel p h]

theorem payload_faithful (bytes : List UInt8) :
    (Value.array (bytes.map fun b => .int b.toNat)).Faithful := by
  refine .array _ fun v hv => ?_
  obtain ⟨b, -, rfl⟩ := List.mem_map.1 hv
  exact .int _ (Nat.lt_trans b.toNat_lt (by decide))

theorem ofJson?_toJson (m : Message (List UInt8)) : ofJson? m.toJson = some m :=
  ofJson?_record m.channel m.pulse (payload_faithful m.payload) (payload?_array m.payload)

/-- Every message is read from the text it is written as.  So is the one that was read from some
text; where the payload is a string there, its bytes are those of the string in UTF-8. -/
theorem read_toJson :
    (∀ m : Message (List UInt8), ofJson? m.toJson = some m) ∧
    (∀ text m, ofJson? text = some m → ofJson? m.toJson = some m) ∧
    ∀ channel p s, ofJson? (record channel p (.text s)).compact =
      some ⟨channel, p, s.toUTF8.data.toList⟩ :=
  ⟨ofJson?_toJson, fun _ m _ => ofJson?_toJson m,
    fun channel p s => ofJson?_record channel p (.text s) (payload?_text s)⟩

/-- The fields stand in another order, with escapes in the channel and in the bytes. -/
theorem read_toJson_escaped :
    let text := "\x7b\"payload\": \"\\u00e9\\ud83d\\ude00\", \"channel\": \"a\\\"\\n\", " ++
      "\"pulse_id\": -9223372036854775808 \x7d"
    let m : Message (List UInt8) :=
      ⟨"a\"\n", -9223372036854775808, [195, 169, 240, 159, 152, 128]⟩
    ofJson? text = some m ∧ ofJson? m.toJson = some m := by
  intro text m
  have h : ofJson? text = some m := by decide +kernel
  exact ⟨h, read_toJson.2.1 text m h⟩

end Message

end PulseJoin
