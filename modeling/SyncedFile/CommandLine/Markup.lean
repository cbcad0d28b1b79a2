import SyncedFile.Text.ShortCodes

/-!
# Markup

What is printed on a terminal may hold tags such as `[red]` that set a style. A tag is a bracket, a
lower-case letter or one of `#`, `/` and `@`, and anything without brackets up to the closing one.
A backslash before a tag makes it plain text. Short codes stand for emoji.

* `opensTag` — whether a tag starts after a bracket;
* `escape` — a text in which no tag is left;
* `render` — a text without its tags.
-/

namespace SyncedFile.Markup

def startsTag (c : Char) : Bool :=
  c.isLower || c == '#' || c == '/' || c == '@'

/-- The text that follows a bracket is the rest of a tag. -/
def opensTag : Text → Bool
  | [] => false
  | c :: rest => startsTag c && (rest.dropWhile fun d => d ≠ '[' ∧ d ≠ ']').head? == some ']'

def slashes (n : Nat) : Text :=
  List.replicate n '\\'

/-- Escapes the tags of a text before which `run` backslashes have been read. In front of a tag
backslashes are doubled, and one is added. -/
def escapeFrom (run : Nat) : Text → Text
  | [] => slashes run
  | c :: rest =>
    if c = '\\' then escapeFrom (run + 1) rest
    else if c = '[' ∧ opensTag rest then slashes (2 * run + 1) ++ c :: escapeFrom 0 rest
    else slashes run ++ c :: escapeFrom 0 rest

/-- The text with a single backslash at its end doubled, so that it does not escape what follows. -/
def closeEnd (t : Text) : Text :=
  match t.reverse with
  | '\\' :: before => if before.head? = some '\\' then t else t ++ ['\\']
  | _ => t

def escape (t : Text) : Text :=
  closeEnd (escapeFrom 0 t)

/-- Where a text with markup has been read to: after so many backslashes, in a tag, or in a tag that
is plain text. -/
inductive Reading where
  | after (slashes : Nat)
  | inTag
  | inPlainTag

/-- The pieces of a text with markup, a new one at both ends of every tag. Of the backslashes before
a tag every two are one, and one that is left over makes the tag plain text. A backslash before a
bracket that opens no tag is dropped. -/
def pieces (reading : Reading) : Text → List Text
  | [] =>
    match reading with
    | .after run => [slashes run]
    | _ => [[]]
  | c :: rest =>
    match reading with
    | .inTag => pieces (if c = ']' then .after 0 else .inTag) rest
    | .inPlainTag =>
      if c = ']' then [c] :: pieces (.after 0) rest
      else (pieces .inPlainTag rest).modifyHead (c :: ·)
    | .after run =>
      if c = '\\' then pieces (.after (run + 1)) rest
      else if c = '[' then
        if opensTag rest then
          -- A backslash without a partner stands for the bracket itself.
          if run % 2 = 1 then
            [] :: slashes (run / 2) :: (pieces .inPlainTag rest).modifyHead (c :: ·)
          else [] :: slashes (run / 2) :: pieces .inTag rest
        else (pieces (.after 0) rest).modifyHead (slashes (run - 1) ++ c :: ·)
      else (pieces (.after 0) rest).modifyHead (slashes run ++ c :: ·)

/-- The text without its tags, and with emoji in place of short codes. No short code reaches beyond
a tag. -/
def render (t : Text) : Text :=
  (pieces (.after 0) t).flatMap Text.expandShortCodes

def styled (style t : Text) : Text :=
  '[' :: style ++ "]" ++ t ++ "[/" ++ style ++ "]"

end SyncedFile.Markup
