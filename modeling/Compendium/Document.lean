import Compendium.Document.Kind

/-!
# The document

The document is a Markdown text: a header, and then a block for each file.  The block of a text
file holds its lines between two fences, and that of a binary file is a marker.
-/

namespace Compendium.Document

/-- The rule between two files. -/
def separator : List Char := List.replicate 40 '-'

/-- The fence around the lines of a file. -/
def fence : List Char := List.replicate 3 '\x60'

/-- What stands in a Markdown file for a fence. -/
def neutralFence : List Char := List.replicate 3 '\''

/-- The header, which names the tool that makes the document. -/
def header (generator : String) : String :=
  "# Content\n\nThis file was generated by " ++ generator ++ "\n\n"

/-- The line that names a file, without its end. -/
def title (path : Path) : String := "## FILE: " ++ "\x60" ++ path.text ++ "\x60"

/-- The form of a line in the block of a file.  Fences in a Markdown file would end the block
early, and are made neutral. -/
def bodyLine (language : String) (line : String) : String :=
  if language = "markdown" then
    String.ofList (Text.replaceAll fence neutralFence 0 line.toList)
  else line

/-- The block of a text file. -/
def textBlock (path : Path) (lines : List String) : String :=
  let language := languageOf path
  String.ofList separator ++ "\n\n" ++ title path ++ "\n\n"
    ++ String.ofList fence ++ language ++ "\n"
    ++ String.join (lines.map fun line => bodyLine language line ++ "\n")
    ++ String.ofList fence ++ "\n\n"

/-- The block of a binary file. -/
def binaryBlock (path : Path) (size : Nat) : String :=
  String.ofList separator ++ "\n" ++ title path ++ " - Type: "
    ++ (mediaTypeOf? path).getD "Unknown" ++ " - Size: " ++ toString size ++ " bytes\n"

end Compendium.Document
