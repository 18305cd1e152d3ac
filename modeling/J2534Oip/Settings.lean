import J2534Oip.CborLink
import J2534Oip.Lib.Registry

/-!
# The registry entry `XplatformsPassThruOverIP`

It is under one key for each version of the interface.  The data of a value is what the
ANSI functions give; its text need not end with a NUL.
-/

namespace J2534Oip

/-- `SOFTWARE\WOW6432Node\PassThruSupport.…\XplatformsPassThruOverIP` -/
inductive SupportKey
  | v0404
  | v0500
deriving DecidableEq

inductive ValueName
  | exSelectedInterface
  | wrappedDll
  | configApplication
  | defaultHost
  | defaultPort
  | cannelloniDataVersion
deriving DecidableEq

/-- The machine's registry, as far as the program looks. -/
abbrev Settings := Registry SupportKey ValueName

def maxPath : Nat := 260

/-- What is behind a NUL is no part of a text. -/
theorem cString_append_of_mem (b more : List UInt8) (h : 0 ∈ b) :
    cString (b ++ more) = cString b := by
  unfold cString
  induction b with
  | nil => cases h
  | cons c b ih =>
    rcases List.mem_cons.1 h with rfl | hb
    · rfl
    · rw [List.cons_append, List.takeWhile_cons, List.takeWhile_cons, ih hb]

end J2534Oip
