import Mathlib.Data.List.Basic
import NeuroSpark.Lib.Sizes
import NeuroSpark.Lib.Word

/-!
# What the file system backends share

Error codes, open flags and C strings. A C string is the list of its bytes before the terminating
NUL.
-/

namespace NeuroSpark

inductive VfsError where
  | invalidFd
  | notFound
  | noSpace
  | invalidArg
  | io
  | perm
  | wouldBlock
  deriving DecidableEq, Repr

/-- The result of a call: a value that the source returns as a number `≥ 0`, or an error code. -/
abbrev VfsResult := Except VfsError Nat

def vfsORdonly : UInt32 := 0x1
def vfsOWronly : UInt32 := 0x2
def vfsORdwr : UInt32 := vfsORdonly ||| vfsOWronly
def vfsOCreat : UInt32 := 0x4
def vfsOTrunc : UInt32 := 0x8

def vfsSeekSet : Int := 0
def vfsSeekCur : Int := 1
def vfsSeekEnd : Int := 2

abbrev CString := List UInt8

/-- The string in a buffer: its bytes before the first NUL. -/
def cString (l : List UInt8) : CString := l.takeWhile (· ≠ 0)

def slash : UInt8 := 47

/-- ASCII upper case to lower case, every other byte unchanged. -/
def foldCase (c : UInt8) : UInt8 := if 65 ≤ c ∧ c ≤ 90 then c + 32 else c

def strCaseEq (a b : CString) : Bool := a.map foldCase == b.map foldCase

end NeuroSpark
