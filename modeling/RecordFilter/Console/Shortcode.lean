import RecordFilter.Console.ShortcodeTable
import RecordFilter.Text.Blank
import RecordFilter.Text.LetterCase
import RecordFilter.Text.Replace

/-!
# Shortcodes

A picture can be written by its name between colons, as in `:warning:`. Its variant as plain text or
as a picture may be asked for behind the name. Everything else between two colons stays as it is,
and so do the colons: a colon that closed one name does not open the next.
-/

namespace RecordFilter.Console

open Text

/-- Take the words of the table in pairs. -/
def pairUp : List (List Char) → List (String × String)
  | name :: picture :: rest => (String.ofList name, String.ofList picture) :: pairUp rest
  | _ => []

/-- Names and pictures. -/
def shortcodes : List (String × String) :=
  pairUp (shortcodeLines.flatMap fun line => words line.toList)

/-- Split a code into its name and the character that selects a variant. -/
def splitVariant (code : List Char) : List Char × List Char :=
  if "-text".toList.isSuffixOf code then (code.take (code.length - 5), ['\ufe0e'])
  else if "-emoji".toList.isSuffixOf code then (code.take (code.length - 6), ['\ufe0f'])
  else (code, [])

/-- The picture with the given code; the case of its name does not matter. -/
def picture? (code : List Char) : Option (List Char) :=
  let (name, variant) := splitVariant code
  (shortcodes.lookup (String.ofList (lower name))).map fun p => p.toList ++ variant

/-- A code between colons; one that names no picture is passed over. -/
def shortcode : Pattern
  | ':' :: s =>
    let code := s.takeWhile fun c => c != ':' && !isBlank c
    match s.drop code.length with
    | ':' :: rest => some ⟨(picture? code).getD (':' :: code ++ [':']), rest⟩
    | _ => none
  | _ => none

/-- The text with pictures for their codes. -/
def withPictures (s : List Char) : List Char := replaceAll shortcode s

end RecordFilter.Console
