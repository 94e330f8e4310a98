import Stencil.Regex.Reader
import Stencil.Shell.ByteText

/-! # Programs for records

A program for records is a list of rules: for each record whose pattern holds, an action is
run. Actions are statements, which compute with numbers, texts and arrays.
-/

namespace Stencil.Awk

open Shell (ByteText)

inductive Arithmetic where
  | plus | minus | times | over | modulo | power
  deriving Repr, DecidableEq

inductive Comparison where
  | less | lessOrEqual | equal | unequal | greater | greaterOrEqual
  deriving Repr, DecidableEq

mutual

inductive Expr where
  | number (value : Float)
  | text (text : ByteText)
  /-- Whether the record matches, where it is no pattern itself. -/
  | regex (regex : Regex)
  | variable (name : String)
  | element (array : String) (indices : List Expr)
  | field (number : Expr)
  | assign (target : Expr) (operator : Option Arithmetic) (value : Expr)
  | choice (test yes no : Expr)
  | or (left right : Expr)
  | and (left right : Expr)
  | isIn (indices : List Expr) (array : String)
  | matching (negated : Bool) (left right : Expr)
  | compare (order : Comparison) (left right : Expr)
  | concat (left right : Expr)
  | arithmetic (operator : Arithmetic) (left right : Expr)
  | not (inner : Expr)
  | negate (inner : Expr)
  | toNumber (inner : Expr)
  /-- A change of a variable by one, whose value is that before or after it. -/
  | change (target : Expr) (step : Float) (valueBefore : Bool)
  | builtin (name : String) (arguments : List Expr)
  | call (name : String) (arguments : List Expr)
  /-- The next record, of a file if one is named, into a variable if one is named. -/
  | nextRecord (target : Option Expr) (file : Option Expr)
  | grouping (items : List Expr)

end

/-- Where a statement prints to. -/
inductive Destination where
  | standard
  | file (name : Expr) (appends : Bool)
  | command (text : Expr)

inductive Statement where
  | expr (expr : Expr)
  | print (items : List Expr) (destination : Destination)
  | printf (items : List Expr) (destination : Destination)
  | choice (test : Expr) (yes no : List Statement)
  | while (test : Expr) (body : List Statement)
  | doWhile (body : List Statement) (test : Expr)
  | for (first : List Statement) (test : Option Expr) (step : List Statement) (body : List Statement)
  | forIn (name array : String) (body : List Statement)
  | block (body : List Statement)
  | break
  | continue
  | next
  | exit (status : Option Expr)
  | return (value : Option Expr)
  | delete (array : String) (indices : List Expr)

/-- Which records a rule is for. -/
inductive RulePattern where
  | begin
  | finish
  | all
  | one (test : Expr)
  | range (first last : Expr)

/-- A rule. Without an action the record is printed. -/
structure Rule where
  pattern : RulePattern
  action : Option (List Statement)

structure Function where
  parameters : List String
  body : List Statement

structure Program where
  rules : List Rule
  functions : List (String × Function)

/-- What a program is made of. -/
inductive Token where
  | number (value : Float)
  | text (text : ByteText)
  | regex (text : ByteText)
  | name (name : String)
  /-- A name right in front of a parenthesis. -/
  | functionName (name : String)
  | builtin (name : String)
  | keyword (word : String)
  | mark (text : String)
  | newline
  | ending
  deriving BEq

def keywords : List String :=
  ["BEGIN", "END", "function", "func", "if", "else", "while", "for", "do", "break", "continue",
   "next", "nextfile", "exit", "return", "delete", "in", "getline", "print", "printf"]

def builtins : List String :=
  ["length", "substr", "index", "split", "sub", "gsub", "match", "sprintf", "sin", "cos", "atan2",
   "exp", "log", "sqrt", "int", "rand", "srand", "tolower", "toupper", "system", "close", "fflush"]

end Stencil.Awk
