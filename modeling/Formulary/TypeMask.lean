-- Sets of types: the tag of a value or a node, and what a method or a variable accepts.
namespace Formulary

/-- A set of types, one bit for each. -/
structure TypeMask where
  bits : BitVec 16
  deriving DecidableEq, Repr

namespace TypeMask

/-! ## Types -/

def none : TypeMask := ⟨0⟩
def text : TypeMask := ⟨1⟩
def number : TypeMask := ⟨2⟩
def boolean : TypeMask := ⟨4⟩
def datetime : TypeMask := ⟨8⟩
def group : TypeMask := ⟨16⟩
def operator : TypeMask := ⟨32⟩
def comma : TypeMask := ⟨64⟩
def reference : TypeMask := ⟨128⟩
def call : TypeMask := ⟨256⟩

/-- Any value. -/
def value : TypeMask := ⟨15⟩

/-- Any node at all. -/
def all : TypeMask := ⟨511⟩

/-- The types with the names that messages give them and the names that files give them, in
the order of their bits. -/
def named : List (TypeMask × String × String) :=
  [(text, "string", "TEXT"), (number, "number", "NUMBER"), (boolean, "boolean", "BOOLEAN"),
    (datetime, "date", "DATETIME"), (group, "group", "GROUP"),
    (operator, "operator", "OPERATOR"), (comma, "comma", "COMMA"),
    (reference, "variable", "VARIABLE"), (call, "method", "METHOD")]

/-! ## Sets -/

def union (s t : TypeMask) : TypeMask := ⟨s.bits ||| t.bits⟩

def inter (s t : TypeMask) : TypeMask := ⟨s.bits &&& t.bits⟩

def isEmpty (s : TypeMask) : Bool := s.bits == 0

/-- The types with these bits; bits of no type are dropped. -/
def ofBits (bits : Nat) : TypeMask := inter all ⟨BitVec.ofNat 16 bits⟩

/-- All types of `t` are in `s`. -/
def contains (s t : TypeMask) : Bool := s.inter t == t

/-- A declared set accepts a type if the two have a bit in common. -/
def accepts (declared actual : TypeMask) : Bool := !(declared.inter actual).isEmpty

/-- The names of the types in messages. -/
def name (s : TypeMask) : String :=
  match named.filterMap fun (t, shown, _) => if s.contains t then some shown else Option.none with
  | [] => "unknown"
  | names => " or ".intercalate names

end TypeMask

end Formulary
