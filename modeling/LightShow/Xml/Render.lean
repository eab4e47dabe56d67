import LightShow.Xml.Escape
import LightShow.Xml.Event

/-!
Writing tags. With a width given, every tag stands on a line of its own, indented by its
depth; otherwise nothing stands between tags.
-/

namespace LightShow.Xml

def declaration : List Char := "<?xml version=\"1.0\" encoding=\"UTF-8\"?>".toList

def lineBreak (width : Option Nat) (depth : Nat) : List Char :=
  match width with
  | none => []
  | some w => '\n' :: List.replicate (w * depth) ' '

def Attribute.chars (a : Attribute) : List Char :=
  ' ' :: a.name.toList ++ ['=', '"'] ++ escape a.value.toList ++ ['"']

def opening (name : String) (attributes : List Attribute) : List Char :=
  '<' :: name.toList ++ attributes.flatMap Attribute.chars

def renderFrom (width : Option Nat) : Nat → List Event → List Char
  | _, [] => []
  | depth, .start name attributes :: rest =>
    lineBreak width depth ++ opening name attributes ++ ['>'] ++ renderFrom width (depth + 1) rest
  | depth, .empty name attributes :: rest =>
    lineBreak width depth ++ opening name attributes ++ ['/', '>'] ++ renderFrom width depth rest
  | depth, .close name :: rest =>
    lineBreak width (depth - 1) ++ '<' :: '/' :: name.toList ++ ['>'] ++
      renderFrom width (depth - 1) rest

def render (width : Option Nat) (events : List Event) : String :=
  String.ofList (declaration ++ renderFrom width 0 events)

end LightShow.Xml
