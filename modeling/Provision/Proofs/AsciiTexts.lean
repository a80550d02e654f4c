/-
  Provision.Proofs.AsciiTexts
  ───────────────────────────
  **ASCII TEXTS ARE READ FROM THEIR BYTES.**

  A character of ASCII is one byte, so that the bytes of a text of such
  characters are read as that text.

  Main results:

    `text?_encode`    the bytes of an ASCII text are well formed
-/
import Provision.Text.Utf8

namespace Provision.Text.Utf8

/-- The characters of ASCII. -/
def isAscii (c : Char) : Bool := c.toNat < 0x80

/-- The byte of a character of ASCII. -/
def asciiByte (c : Char) : UInt8 := c.val.toUInt8

/-- A character of ASCII and its byte are the same number. -/
theorem toNat_asciiByte {c : Char} (h : isAscii c = true) : (asciiByte c).toNat = c.toNat := by
  have hlt : c.toNat < 0x80 := of_decide_eq_true h
  unfold asciiByte
  rw [UInt32.toNat_toUInt8]
  exact Nat.mod_eq_of_lt (Nat.lt_trans hlt (by decide))

/-! ## §1. Bytes as lists. -/

/-- The loop over an array, from an index on, with what was collected before it. -/
theorem toList_loop (bs : ByteArray) (i : Nat) (r : List UInt8) :
    ByteArray.toList.loop bs i r = r.reverse ++ bs.data.toList.drop i := by
  generalize hk : bs.size - i = k
  -- On the number of bytes that are left, since the loop counts upwards.
  induction k generalizing i r with
  | zero =>
      have hle : bs.data.toList.length ≤ i := by
        show bs.data.size ≤ i
        have hsize : bs.size = bs.data.size := rfl
        omega
      unfold ByteArray.toList.loop
      rw [if_neg (by omega), List.drop_eq_nil_of_le hle, List.append_nil]
  | succ k ih =>
      have hlt : i < bs.size := by omega
      have hlist : i < bs.data.toList.length := hlt
      unfold ByteArray.toList.loop
      rw [if_pos hlt, ih (i + 1) _ (by omega), List.drop_eq_getElem_cons hlist, List.reverse_cons,
        List.append_assoc, List.singleton_append]
      have hget : bs.get! i = bs.data.toList[i] := by
        unfold ByteArray.get!
        rw [Array.getElem_toList]
        exact getElem!_pos bs.data i hlt
      rw [hget]

/-- The bytes of an array, one after the other. -/
theorem toList_eq (bs : ByteArray) : bs.toList = bs.data.toList :=
  toList_loop bs 0 []

/-! ## §2. One byte for each character. -/

/-- **Every character of ASCII is encoded as its one byte.** -/
theorem toList_utf8Encode {cs : List Char} (h : ∀ c ∈ cs, isAscii c = true) :
    cs.utf8Encode.data.toList = cs.map asciiByte := by
  induction cs with
  | nil => rfl
  | cons c cs ih =>
      have hc : isAscii c = true := h c (List.mem_cons_self ..)
      have hsize : c.utf8Size = 1 := by
        rw [Char.utf8Size_eq_one_iff]
        have hlt : c.toNat < 0x80 := of_decide_eq_true hc
        exact UInt32.le_iff_toNat_le.mpr (Nat.le_of_lt_succ hlt)
      rw [List.utf8Encode_cons, ByteArray.toList_data_append, List.utf8Encode_singleton,
        String.utf8EncodeChar_eq_singleton hsize, List.toList_data_toByteArray,
        ih fun d hd => h d (List.mem_cons_of_mem _ hd)]
      rfl

/-- Every such byte is decoded as its character. -/
theorem decode_ascii {cs : List Char} (h : ∀ c ∈ cs, isAscii c = true) :
    decode (cs.map asciiByte) = cs.map some := by
  induction cs with
  | nil =>
      unfold decode
      rfl
  | cons c cs ih =>
      have hc := h c (List.mem_cons_self ..)
      have hbyte : asciiByte c < 0x80 := by
        rw [UInt8.lt_iff_toNat_lt, toNat_asciiByte hc]
        exact of_decide_eq_true hc
      have hread : readChar (asciiByte c) (cs.map asciiByte) = (some c, cs.map asciiByte) := by
        unfold readChar
        dsimp only
        rw [if_pos hbyte, toNat_asciiByte hc, Char.ofNat_toNat]
      rw [List.map_cons]
      conv => lhs; unfold decode
      rw [hread, ih fun d hd => h d (List.mem_cons_of_mem _ hd)]
      rfl

/-- **The bytes of an ASCII text are read as that text.** -/
theorem text?_encode {text : String} (h : ∀ c ∈ text.toList, isAscii c = true) :
    text? (encode text) = some text := by
  have hbytes : (encode text).toList = text.toList.map asciiByte := by
    unfold encode
    rw [toList_eq, String.toUTF8_eq_toByteArray, ← String.ofList_toList (s := text),
      String.toByteArray_ofList, toList_utf8Encode h]
    rw [String.ofList_toList]
  rw [text?_eq_some, hbytes]
  exact decode_ascii h

end Provision.Text.Utf8
