import TemplateRegistry.Time.Duration
/-!
# Printable documents

A minimal PDF file: one page tree, one fixed-width font, and for each page a
content stream with the lines as literal strings.  The file is plain ASCII;
every other character of a line is shown as a question mark.

* `wrap` — a line cut at the printable width;
* `paginate` — the wrapped lines page by page; the first page gives up two
  lines to the title;
* `objects` — the objects of the file, numbered from one;
* `file` — header, objects, cross-reference table and trailer.
-/

namespace TemplateRegistry.Report.Pdf

/-- The width of a page, in points. -/
def pageWidth : Nat := 612

/-- The height of a page. -/
def pageHeight : Nat := 792

/-- The margin on every side. -/
def margin : Nat := 50

/-- The size of the body font. -/
def fontSize : Nat := 9

/-- The size of the title font. -/
def titleFontSize : Nat := 14

/-- The distance between two baselines. -/
def leading : Nat := 12

/-- The characters of the body font that fit between the margins. -/
def maxColumns : Nat := 94

/-- The lines that fit between the margins. -/
def linesPerPage : Nat := (pageHeight - 2 * margin) / leading

/-- A printable ASCII character. -/
def isPrintable (c : Char) : Bool :=
  ' ' ≤ c && c ≤ '~'

/-- A character within a literal string. -/
def escapeChar (c : Char) : List Char :=
  if c = '(' ∨ c = ')' ∨ c = '\\' then ['\\', c]
  else if c = '\t' then List.replicate 4 ' '
  else if isPrintable c then [c]
  else ['?']

/-- A text within a literal string. -/
def escape (s : List Char) : List Char :=
  s.flatMap escapeChar

/-- A list cut into parts of a length, at most `fuel` of them. -/
def chunks {α : Type} (size : Nat) : Nat → List α → List (List α)
  | 0, _ => []
  | _ + 1, [] => []
  | fuel + 1, items => items.take size :: chunks size fuel (items.drop size)

/-- A line cut at the printable width; an empty line is one empty part. -/
def wrap (line : List Char) : List (List Char) :=
  if line.isEmpty then [[]] else chunks maxColumns line.length line

/-- Lines page by page.  There is always a first page. -/
def paginate (lines : List (List Char)) : List (List (List Char)) :=
  let first := max (linesPerPage - 2) 1
  lines.take first :: chunks linesPerPage lines.length (lines.drop first)

/-- A natural number in decimal digits. -/
def digits (n : Nat) : List Char :=
  Nat.toDigits 10 n

/-- The content stream of a page. -/
def stream (title : Option (List Char)) (lines : List (List Char)) :
    List Char :=
  let top := pageHeight - margin
  let (heading, y) :=
    match title with
    | some title =>
      (s!"BT /F1 {titleFontSize} Tf {margin} {top} Td (".toList ++
        escape title ++ ") Tj ET\n".toList, top - 2 * leading)
    | none => ([], top)
  heading ++ s!"BT /F1 {fontSize} Tf {leading} TL {margin} {y} Td\n".toList ++
    (lines.flatMap fun line => '(' :: (escape line ++ ") Tj T*\n".toList)) ++
    "ET\n".toList

/-- The number of the object of a page; its stream comes right after it. -/
def pageObject (index : Nat) : Nat := 4 + 2 * index

/-- The page object and the stream object of a page. -/
def pageObjects (title : List Char) (index : Nat) (lines : List (List Char)) :
    List (List Char) :=
  let body := stream (if index = 0 then some title else none) lines
  [s!"<< /Type /Page /Parent 2 0 R /MediaBox [0 0 {pageWidth} {pageHeight}] ".toList ++
      s!"/Resources << /Font << /F1 3 0 R >> >> /Contents {pageObject index + 1} 0 R >>".toList,
    s!"<< /Length {body.length} >>\nstream\n".toList ++ body ++
    "endstream".toList]

/-- The objects of the pages from an index on. -/
def pageObjectsFrom (title : List Char) (index : Nat) :
    List (List (List Char)) → List (List Char)
  | [] => []
  | lines :: rest =>
    pageObjects title index lines ++ pageObjectsFrom title (index + 1) rest

/-- The references to the pages. -/
def kids (count : Nat) : List Char :=
  (" ".intercalate ((List.range count).map fun i =>
    s!"{pageObject i} 0 R")).toList

/-- The objects of a file, the first of them numbered one. -/
def objects (title : List Char) (pages : List (List (List Char))) :
    List (List Char) :=
  "<< /Type /Catalog /Pages 2 0 R >>".toList ::
  ("<< /Type /Pages /Kids [".toList ++ kids pages.length ++
    s!"] /Count {pages.length} >>".toList) ::
  "<< /Type /Font /Subtype /Type1 /BaseFont /Courier /Encoding /WinAnsiEncoding >>".toList ::
  pageObjectsFrom title 0 pages

/-- The header of a file. -/
def header : List Char := "%PDF-1.4\n".toList

/-- An object with its number. -/
def numbered (number : Nat) (body : List Char) : List Char :=
  digits number ++ " 0 obj\n".toList ++ body ++ "\nendobj\n".toList

/-- Objects one after another, numbered from a number on. -/
def body (number : Nat) : List (List Char) → List Char
  | [] => []
  | object :: rest => numbered number object ++ body (number + 1) rest

/-- The offsets at which objects start, the first at an offset. -/
def offsets (start number : Nat) : List (List Char) → List Nat
  | [] => []
  | object :: rest =>
    start :: offsets (start + (numbered number object).length) (number + 1) rest

/-- An entry of the cross-reference table. -/
def crossReference (offset : Nat) : List Char :=
  Duration.padded 10 offset ++ " 00000 n \n".toList

/-- The cross-reference table. -/
def crossReferences (offsets : List Nat) : List Char :=
  s!"xref\n0 {offsets.length + 1}\n".toList ++ "0000000000 65535 f \n".toList ++
    offsets.flatMap crossReference

/-- The trailer, given the number of objects and the offset of the
cross-reference table. -/
def trailer (count start : Nat) : List Char :=
  s!"trailer\n<< /Size {count + 1} /Root 1 0 R >>\nstartxref\n{start}\n%%EOF\n".toList

/-- A file with a title and wrapped lines on pages. -/
def file (title : List Char) (pages : List (List (List Char))) : List Char :=
  let objs := objects title pages
  let front := header ++ body 1 objs
  front ++ crossReferences (offsets header.length 1 objs) ++
    trailer objs.length front.length

/-- A file with a title and lines. -/
def document (title : String) (lines : List String) : String :=
  String.ofList
    (file title.toList (paginate (lines.flatMap fun line => wrap line.toList)))

end TemplateRegistry.Report.Pdf
