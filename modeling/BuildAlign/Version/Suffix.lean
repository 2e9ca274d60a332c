import BuildAlign.Text.Blank
import BuildAlign.Version.Parse

/-!
Appending a rebuild suffix. A suffix is a label with an optional build number, such as `redhat-1`. A
label that the qualifier already ends with is replaced and not repeated. The separator in front of
appended text follows one rule: a dot after a numeral, a dash otherwise.
-/

namespace BuildAlign.Version

/-- Splits a suffix into its label and its build number. A suffix that is one numeral has an empty
label; digits that exceed 64 bits are no build number. -/
def splitSuffix (suffix : List Char) : List Char × Option Build :=
  let s := Text.trim suffix
  let number (digits : List Char) : Option Build :=
    (Text.word? digits).map fun n => { separator := '-', value := n, width := digits.length }
  match (Text.cutLast? '-' s).bind fun (label, digits) => (number digits).map (label, ·) with
  | some (label, build) => (label, some build)
  | none => if Text.isNumeral s then ([], number s) else (s, none)

/-- What is left of a qualifier that ends with `label` on a segment boundary, without the label and
the separator in front of it. -/
def stripLabel? (qualifier label : List Char) : Option (List Char) :=
  if qualifier = label then some []
  else
    match Text.before? label qualifier with
    | some front =>
      match front.getLast? with
      | some c => if isSeparator c then some front.dropLast else none
      | none => none
    | none => none

/-- The separator to put before text that is appended to the core and qualifier: none at the start
and after a separator, a dot after a numeral, a dash otherwise. -/
def insertionSeparator (v : Version) : Option Char :=
  let after (segment : List Char) : Char := if Text.isNumeral segment then '.' else '-'
  if v.qualifier = [] then v.core.getLast?.map after
  else
    match (Text.spanEnd (fun c => !isSeparator c) v.qualifier).2 with
    | [] => none
    | segment => some (after segment)

/-- Makes the build number part of the qualifier. -/
def foldBuild (v : Version) : Version :=
  match v.build with
  | none => v
  | some b =>
    if v.qualifier = [] then
      { v with separator := some b.separator, qualifier := b.digits, build := none }
    else { v with qualifier := v.qualifier ++ b.chars, build := none }

def foldBuild? (v : Version) : Option Version :=
  match v.build with
  | none => some v
  | some b =>
    if v.qualifier = [] then
      b.digits?.map fun digits =>
        { v with separator := some b.separator, qualifier := digits, build := none }
    else b.chars?.map fun number => { v with qualifier := v.qualifier ++ number, build := none }

/-- Appends a label to core and qualifier with the separator of `insertionSeparator`. -/
def appendLabel (v : Version) (label : List Char) : Version :=
  if v.qualifier = [] then { v with separator := v.insertionSeparator, qualifier := label }
  else { v with qualifier := v.qualifier ++ v.insertionSeparator.toList ++ label }

/-- Puts a label in the place of the same one, in front of which `front` stands. -/
def replaceLabel (v : Version) (front label : List Char) (build : Option Build) : Version :=
  appendLabel
    { v with
      separator := if front = [] then none else v.separator
      qualifier := front
      build := build.or v.build }
    label

/-- Appends a suffix, or replaces the same label at the end of the qualifier. The build number of
the suffix replaces the present one; without one, a replaced label keeps its build number, and a
newly appended label moves the present one into the qualifier. -/
def appendSuffix (v : Version) (suffix : List Char) : Version :=
  match splitSuffix suffix with
  | ([], build) => { v with build := build.or v.build }
  | (label, build) =>
    match stripLabel? v.qualifier label with
    | some front => v.replaceLabel front label build
    | none => appendLabel { v.foldBuild with build } label

/-- Appends a suffix. This writes the build number if it has to move into the qualifier. -/
def appendSuffix? (v : Version) (suffix : List Char) : Option Version :=
  match splitSuffix suffix with
  | ([], build) => some { v with build := build.or v.build }
  | (label, build) =>
    match stripLabel? v.qualifier label with
    | some front => some (v.replaceLabel front label build)
    | none => v.foldBuild?.map fun folded => appendLabel { folded with build } label

end BuildAlign.Version
