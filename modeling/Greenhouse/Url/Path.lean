import Greenhouse.Text.Split
import Greenhouse.Url.Percent

/-!
# Greenhouse.Url.Path

Paths as lists of segments.

A segment of one dot is dropped, and one of two dots drops the segment in front of it as well, a dot
counting also in its percent form.  Two dots do not drop a segment that names a drive.  Where the
last segment is dropped, an empty one takes its place.
-/

namespace Greenhouse.Url.Path

open Greenhouse.Text

/-- Whether a character separates segments. -/
def isSeparator (c : Char) : Bool := c == '/' || c == '\\'

/-- A segment with its dots out of their percent form. -/
def plainDots : List Char → List Char
  | '%' :: '2' :: 'e' :: cs => '.' :: plainDots cs
  | '%' :: '2' :: 'E' :: cs => '.' :: plainDots cs
  | c :: cs => c :: plainDots cs
  | [] => []

/-- Whether a segment is one dot. -/
def isSingleDot (segment : List Char) : Bool := plainDots segment == ['.']

/-- Whether a segment is two dots. -/
def isDoubleDot (segment : List Char) : Bool := plainDots segment == ['.', '.']

/-- Whether a segment names a drive: a letter and a colon or a bar. -/
def isDrive : List Char → Bool
  | [c, d] => c.isAlpha && (d == ':' || d == '|')
  | _ => false

/-- Drops the last segment, the segments being in reverse. -/
def shorten : List (List Char) → List (List Char)
  | [] => []
  | s :: ss => if isDrive s then s :: ss else ss

/-- Goes along the segments of a text, from the segments in front of them in reverse; the result is
in reverse too. -/
def walk (done : List (List Char)) : List (List Char) → List (List Char)
  | [] => done
  | s :: rest =>
    if isDoubleDot s then
      let done := shorten done
      walk (if rest.isEmpty then [] :: done else done) rest
    else if isSingleDot s then
      walk (if rest.isEmpty then [] :: done else done) rest
    else walk (Percent.encode Percent.path s :: done) rest

/-- The segments of a text, starting from the segments `base`. -/
def resolve (base : List (List Char)) (cs : List Char) : List (List Char) :=
  (walk base.reverse (pieces isSeparator cs)).reverse

/-- A path as text. -/
def text (segments : List (List Char)) : List Char := '/' :: join '/' segments

end Greenhouse.Url.Path
