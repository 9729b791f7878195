import Compendium.Path

/-!
# Kinds of files

The extension of a file says in which language its text is written, and of which media type
its bytes are.  Upper and lower case are not told apart.
-/

namespace Compendium.Document

/-- The lower case of a character, where that is an ASCII letter: of the capital letters and of
the sign for kelvin. -/
def lowerCase (c : Char) : Char :=
  if 'A'.toNat ≤ c.toNat ∧ c.toNat ≤ 'Z'.toNat then Char.ofNat (c.toNat + 32)
  else if c = '\u212a' then 'k'
  else c

/-- The extension of a path, in lower case. -/
def extension? (path : Path) : Option String :=
  path.extension?.map fun ext => String.ofList (ext.map lowerCase)

/-- The languages, each with an extension for it. -/
def languages : List (String × String) :=
  [("py", "python"), ("sh", "bash"), ("js", "javascript"), ("json", "json"),
    ("svelte", "svelte"), ("html", "html"), ("css", "css"), ("md", "markdown"),
    ("txt", "text"), ("yml", "yaml"), ("yaml", "yaml"), ("xml", "xml"), ("csv", "csv"),
    ("ts", "typescript"), ("sql", "sql"), ("java", "java"), ("c", "c"), ("h", "c"),
    ("cpp", "cpp"), ("hpp", "cpp"), ("cs", "csharp"), ("php", "php"), ("rb", "ruby"),
    ("go", "go"), ("rs", "rust"), ("toml", "toml"), ("kt", "kotlin"), ("swift", "swift"),
    ("m", "objectivec"), ("pl", "perl"), ("r", "r"), ("lua", "lua"), ("ps1", "powershell"),
    ("psm1", "powershell"), ("psd1", "powershell"), ("ps1xml", "powershell"),
    ("pssc", "powershell"), ("psrc", "powershell"), ("bat", "batch"), ("cmd", "batch"),
    ("gd", "gdscript"), ("tscn", "gdscript")]

/-- The media types, each with an extension for it. -/
def mediaTypes : List (String × String) :=
  [("png", "image/png"), ("jpg", "image/jpeg"), ("jpeg", "image/jpeg"), ("gif", "image/gif"),
    ("webp", "image/webp"), ("ico", "image/vnd.microsoft.icon"), ("svg", "image/svg+xml"),
    ("pdf", "application/pdf"), ("zip", "application/zip"), ("gz", "application/gzip"),
    ("tar", "application/x-tar"), ("wasm", "application/wasm"), ("woff", "font/woff"),
    ("woff2", "font/woff2"), ("ttf", "font/ttf"), ("mp3", "audio/mpeg"),
    ("wav", "audio/x-wav"), ("ogg", "audio/ogg"), ("mp4", "video/mp4"),
    ("exe", "application/octet-stream"), ("dll", "application/octet-stream"),
    ("so", "application/octet-stream"), ("bin", "application/octet-stream")]

/-- The language of the file at a path: text, if its extension stands for no other. -/
def languageOf (path : Path) : String :=
  ((extension? path).bind fun ext => languages.lookup ext).getD "text"

/-- The media type of the file at a path. -/
def mediaTypeOf? (path : Path) : Option String :=
  (extension? path).bind fun ext => mediaTypes.lookup ext

end Compendium.Document
