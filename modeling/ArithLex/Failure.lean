import ArithLex.AccessError
import ArithLex.Fault
import ArithLex.Report

set_option autoImplicit false

/-! Everything that can go wrong before there are tokens to show. -/
namespace ArithLex

/-- An illegal character, a source that cannot be read, or settings that cannot be read. -/
inductive Failure where
  | scan (fault : Fault)
  | unreadable (path : String) (cause : AccessError)
  | badSettings (path : String) (reason : String)
deriving DecidableEq

namespace Failure

def message : Failure → String
  | scan fault => fault.message
  | unreadable path cause => "Cannot read '" ++ path ++ "': " ++ cause.message
  | badSettings path reason => "Invalid config '" ++ path ++ "': " ++ reason

/-- The line of the failure, counted from one, if it has one. -/
def line? : Failure → Option Nat
  | scan fault => some fault.line
  | _ => none

/-- The column of the failure, counted from one, if it has one. -/
def column? : Failure → Option Nat
  | scan fault => some fault.column
  | _ => none

def phase : Failure → Phase
  | scan _ => .lexer
  | unreadable .. => .io
  | badSettings .. => .config

/-- The failure taken apart; a source excerpt is attached on demand, and only to illegal
characters. -/
def report (failure : Failure) (withContext : Bool) : Report :=
  match failure with
  | scan fault =>
    { phase := Phase.lexer
      file := some fault.source.name
      line := some fault.line
      column := some fault.column
      kind := Fault.tag
      message := fault.summary
      context := if withContext then some fault.context else none }
  | unreadable path cause =>
    { phase := Phase.io
      file := some path
      line := none
      column := none
      kind := cause.kind
      message := failure.message
      context := none }
  | badSettings path _ =>
    { phase := Phase.config
      file := some path
      line := none
      column := none
      kind := "InvalidConfig"
      message := failure.message
      context := none }

end Failure
end ArithLex
