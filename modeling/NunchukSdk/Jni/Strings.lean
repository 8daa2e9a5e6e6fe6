import Mathlib.Data.List.TakeWhile
import NunchukSdk.Foundation.ModifiedUtf8

/-!
# Java Strings and Native Strings

A Java string is a list of UTF-16 units, a `std::string` a list of bytes. `StringWrapper` asks
JNI for the modified UTF-8 of the former and copies it up to the first zero byte; `NewStringUTF`
reads a zero-terminated byte string back.
-/

namespace NunchukSdk

open Foundation

/-- A `java.lang.String`. -/
abbrev JString := List UInt16

/-- A `std::string`. -/
abbrev NativeString := List UInt8

/-- The part of a byte string that C code sees behind a `const char *`. -/
def cString (bytes : NativeString) : NativeString := bytes.takeWhile (· ≠ 0)

/-- `StringWrapper(env, str)`: `std::string(env->GetStringUTFChars(str, nullptr))`. -/
def stringWrapper (s : JString) : NativeString := cString (ModifiedUtf8.encode s)

/-- `env->NewStringUTF(str.c_str())`; `none` where JNI leaves the result undefined. -/
def newStringUTF (bytes : NativeString) : Option JString := ModifiedUtf8.decode (cString bytes)

theorem cString_of_zero_not_mem {bytes : NativeString} (h : 0 ∉ bytes) :
    cString bytes = bytes := by
  unfold cString
  rw [List.takeWhile_eq_self_iff]
  intro b hb
  simp only [ne_eq, decide_not, Bool.not_eq_eq_eq_not, Bool.not_true, decide_eq_false_iff_not]
  rintro rfl
  exact h hb

/-- The whole encoding is copied: it contains no zero byte. -/
theorem stringWrapper_eq (s : JString) : stringWrapper s = ModifiedUtf8.encode s :=
  cString_of_zero_not_mem (ModifiedUtf8.zero_not_mem_encode s)

/-- Different Java strings arrive as different native strings. -/
theorem stringWrapper_injective : Function.Injective stringWrapper := by
  intro s t h
  rw [stringWrapper_eq, stringWrapper_eq] at h
  exact ModifiedUtf8.encode_injective h

/-! ## ASCII text -/

theorem zero_not_mem_of_ascii {bytes : NativeString}
    (h : ∀ b ∈ bytes, ModifiedUtf8.IsAscii b) : 0 ∉ bytes := by
  intro hmem
  exact Nat.lt_irrefl 0 (h 0 hmem).1

/-- ASCII text becomes the Java string of the same characters. -/
theorem newStringUTF_ascii {bytes : NativeString} (h : ∀ b ∈ bytes, ModifiedUtf8.IsAscii b) :
    newStringUTF bytes = some (bytes.map ModifiedUtf8.widen) := by
  unfold newStringUTF
  rw [cString_of_zero_not_mem (zero_not_mem_of_ascii h), ModifiedUtf8.decode_ascii h]

/-- A Java string arrives as given ASCII text exactly when it has the same characters. -/
theorem stringWrapper_eq_ascii_iff {s : JString} {bytes : NativeString}
    (h : ∀ b ∈ bytes, ModifiedUtf8.IsAscii b) :
    stringWrapper s = bytes ↔ s = bytes.map ModifiedUtf8.widen := by
  rw [stringWrapper_eq]
  constructor
  · intro hs
    have hdecoded : some s = some (bytes.map ModifiedUtf8.widen) := by
      rw [← ModifiedUtf8.decode_encode s, hs, ModifiedUtf8.decode_ascii h]
    exact Option.some.inj hdecoded
  · rintro rfl
    exact ModifiedUtf8.encode_widen h

end NunchukSdk
