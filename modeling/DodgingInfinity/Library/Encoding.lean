import DodgingInfinity.Library.Framing
import Mathlib.Data.String.Basic

/-!
# Texts as bytes

The ASCII and UTF-8 forms of a text and their readers, and what each byte of
them says about the text.
-/

namespace DodgingInfinity

namespace Encoding

open Framing (Bytes)

/-- The bytes of an ASCII text. -/
def encodeAscii (text : String) : Bytes :=
  text.toList.map fun character => UInt8.ofNat character.toNat

/-- The ASCII reading of bytes; a byte that is none is read as U+FFFD. -/
def decodeAscii (bytes : Bytes) : String :=
  String.ofList (bytes.map fun byte =>
    if byte.toNat < 0x80 then Char.ofNat byte.toNat else Char.ofNat 0xFFFD)

/-- Every character of a text is an ASCII one. -/
def Ascii (text : String) : Prop := ∀ character ∈ text.toList, character.toNat < 0x80

instance (text : String) : Decidable (Ascii text) :=
  inferInstanceAs (Decidable (∀ character ∈ text.toList, character.toNat < 0x80))

/-- The UTF-8 bytes of a text. -/
def encodeUtf8 (text : String) : Bytes := text.toByteArray.data.toList

/-- The text of UTF-8 bytes. -/
def decodeUtf8 (bytes : Bytes) : Option String := String.fromUTF8? ⟨bytes.toArray⟩

theorem toNat_ofNat_ascii {character : Char} (h : character.toNat < 0x80) :
    (UInt8.ofNat character.toNat).toNat = character.toNat := by
  rw [UInt8.toNat_ofNat']
  exact Nat.mod_eq_of_lt (by omega)

theorem decodeAscii_encodeAscii {text : String} (h : Ascii text) :
    decodeAscii (encodeAscii text) = text := by
  unfold decodeAscii encodeAscii
  rw [List.map_map]
  have hmap : text.toList.map ((fun byte : UInt8 =>
      if byte.toNat < 0x80 then Char.ofNat byte.toNat else Char.ofNat 0xFFFD) ∘
      fun character => UInt8.ofNat character.toNat) = text.toList.map id := by
    apply List.map_congr_left
    intro character hmem
    have hsmall := h character hmem
    rw [Function.comp_apply, toNat_ofNat_ascii hsmall, if_pos hsmall, Char.ofNat_toNat, id]
  rw [hmap, List.map_id, String.ofList_toList]

theorem encodeAscii_injective {text other : String} (h : Ascii text) (hother : Ascii other)
    (hbytes : encodeAscii text = encodeAscii other) : text = other := by
  rw [← decodeAscii_encodeAscii h, hbytes, decodeAscii_encodeAscii hother]

@[simp] theorem length_encodeAscii (text : String) :
    (encodeAscii text).length = text.toList.length :=
  List.length_map _

/-- A byte of an ASCII text is one of its characters. -/
theorem mem_encodeAscii {text : String} (h : Ascii text) {character : Char}
    (hascii : character.toNat < 0x80) :
    UInt8.ofNat character.toNat ∈ encodeAscii text ↔ character ∈ text.toList := by
  unfold encodeAscii
  constructor
  · intro hmem
    obtain ⟨held, hin, hbyte⟩ := List.mem_map.mp hmem
    have hcodes := congrArg UInt8.toNat hbyte
    rw [toNat_ofNat_ascii (h held hin), toNat_ofNat_ascii hascii] at hcodes
    rw [← Char.toNat_inj.mp hcodes]
    exact hin
  · exact fun hmem => List.mem_map_of_mem hmem

theorem decodeUtf8_encodeUtf8 (text : String) : decodeUtf8 (encodeUtf8 text) = some text := by
  unfold decodeUtf8 encodeUtf8 String.fromUTF8?
  rw [Array.toArray_toList, dif_pos text.isValidUTF8]
  rfl

theorem encodeUtf8_injective : Function.Injective encodeUtf8 := by
  intro text other h
  have hread := decodeUtf8_encodeUtf8 text
  rw [h, decodeUtf8_encodeUtf8] at hread
  exact (Option.some.inj hread).symm

theorem encodeUtf8_eq_flatMap (text : String) :
    encodeUtf8 text = text.toList.flatMap String.utf8EncodeChar := by
  unfold encodeUtf8
  conv_lhs => rw [← String.ofList_toList (s := text)]
  rw [String.toByteArray_ofList, List.utf8Encode, List.toList_data_toByteArray]

/-- The NUL byte is only in the form of the NUL character. -/
theorem zero_notMem_utf8EncodeChar {character : Char} (h : character.toNat ≠ 0) :
    0 ∉ String.utf8EncodeChar character := by
  have hcode : character.val.toNat ≠ 0 := h
  unfold String.utf8EncodeChar
  have hne : ∀ number, number % 256 ≠ 0 → (0 : UInt8) ≠ UInt8.ofNat number := by
    intro number hnumber heq
    have hbytes := congrArg UInt8.toNat heq
    rw [UInt8.toNat_ofNat'] at hbytes
    exact hnumber hbytes.symm
  simp only
  split
  · simp only [List.mem_singleton]
    exact hne _ (by omega)
  · split
    · simp only [List.mem_cons, List.not_mem_nil, or_false, not_or]
      exact ⟨hne _ (by omega), hne _ (by omega)⟩
    · split
      · simp only [List.mem_cons, List.not_mem_nil, or_false, not_or]
        exact ⟨hne _ (by omega), hne _ (by omega), hne _ (by omega)⟩
      · simp only [List.mem_cons, List.not_mem_nil, or_false, not_or]
        exact ⟨hne _ (by omega), hne _ (by omega), hne _ (by omega), hne _ (by omega)⟩

theorem zero_notMem_encodeUtf8 {text : String}
    (h : ∀ character ∈ text.toList, character.toNat ≠ 0) : 0 ∉ encodeUtf8 text := by
  rw [encodeUtf8_eq_flatMap, List.mem_flatMap]
  rintro ⟨character, hmem, hzero⟩
  exact zero_notMem_utf8EncodeChar (h character hmem) hzero

end Encoding

end DodgingInfinity
