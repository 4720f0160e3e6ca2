import Mathlib.Data.List.Nodup
import TemplateRegistry.Proofs.IntegerNumerals
import TemplateRegistry.Report.Pdf
/-!
# The structure of a printable file

A reader of a printable file starts at its end: the trailer says where the
cross-reference table is, the table says where the objects are, the second
object lists the pages, and each page refers to the stream with its content.
All of these places and numbers are computed on their own, and all of them are
right, for any title and lines.

* `IsIndexed`, `IsPageTree` — a file whose table, and a list of objects whose
  page tree, a reader can follow;
* `standsAt_of_offset` — every object is where its offset says;
* `isEntryFor_crossReference` — the entry of an offset, as long as ten digits
  suffice;
* `isAscii_file` — every character is one byte;
* `objectAt_cases` — the objects that there are;
* `document_well_formed` — all of this of the document with a title and lines.
-/

namespace TemplateRegistry.Report.Pdf

/-! ### What a reader relies on -/

/-- A text of ASCII characters. -/
def IsAscii (s : List Char) : Prop :=
  ∀ c ∈ s, c.toNat < 128

instance (s : List Char) : Decidable (IsAscii s) :=
  List.decidableBAll _ s

/-- A text stands in a file from an offset on. -/
def StandsAt (file : List Char) (offset : Nat) (text : List Char) : Prop :=
  text <+: file.drop offset

/-- The entry of an object in use: its offset in ten digits, and a mark. -/
structure IsEntryFor (entry : List Char) (offset : Nat) : Prop where
  length : entry.length = 20
  decimal : ∀ c ∈ entry.take 10, c.isDigit
  value : Nat.ofDigitChars 10 (entry.take 10) 0 = offset
  mark : entry.drop 10 = " 00000 n \n".toList

/-- A file whose objects are found through the entries of the cross-reference
table at an offset.  Nothing else is in the file. -/
structure IsIndexed (file : List Char) (objects entries : List (List Char))
    (start : Nat) :
    Prop where
  front : file.take start = "%PDF-1.4\n".toList ++
    (objects.mapIdx fun i object => numbered (i + 1) object).flatten
  table : file.drop start =
    "xref\n0 ".toList ++ digits (objects.length + 1) ++ "\n".toList ++
      "0000000000 65535 f \n".toList ++ entries.flatten ++
    ("trailer\n<< /Size ".toList ++ digits (objects.length + 1) ++
      " /Root 1 0 R >>\nstartxref\n".toList ++ digits start ++
      "\n%%EOF\n".toList)
  entries_length : entries.length = objects.length
  entry : ∀ i object, objects[i]? = some object →
    ∃ entry offset, entries[i]? = some entry ∧
    IsEntryFor entry offset ∧
      StandsAt file offset (digits (i + 1) ++ " 0 obj\n".toList ++ object ++
        "\nendobj\n".toList)

/-- The object with a number. -/
def objectAt (objects : List (List Char)) : Nat → Option (List Char)
  | 0 => none
  | number + 1 => objects[number]?

/-- References to objects. -/
def references (numbers : List Nat) : List Char :=
  " ".toList.intercalate (numbers.map fun number =>
    digits number ++ " 0 R".toList)

/-- The catalog. -/
def catalogText : List Char :=
  "<< /Type /Catalog /Pages 2 0 R >>".toList

/-- The font. -/
def fontText : List Char :=
  "<< /Type /Font /Subtype /Type1 /BaseFont /Courier /Encoding /WinAnsiEncoding >>".toList

/-- The page tree of some pages. -/
def treeText (pages : List Nat) : List Char :=
  "<< /Type /Pages /Kids [".toList ++ references pages ++ "] /Count ".toList ++
    digits pages.length ++ " >>".toList

/-- The object of a page whose content is in the stream with a number. -/
def pageText (content : Nat) : List Char :=
  "<< /Type /Page /Parent 2 0 R /MediaBox [0 0 ".toList ++ digits pageWidth ++
    " ".toList ++ digits pageHeight ++ "] ".toList ++
    ("/Resources << /Font << /F1 3 0 R >> >> /Contents ".toList ++
      digits content ++ " 0 R >>".toList)

/-- The stream of a content. -/
def streamText (content : List Char) : List Char :=
  "<< /Length ".toList ++ digits content.length ++ " >>\nstream\n".toList ++
    content ++ "endstream".toList

/-- An object that says it is a page. -/
def IsPage (object : List Char) : Prop :=
  "<< /Type /Page ".toList <+: object

/-- An object that says how long its stream is. -/
def IsStream (object : List Char) : Prop :=
  "<< /Length ".toList <+: object

/-- Objects of which the first is the catalog and the third is the font.  The
second lists the pages and nothing else, in the order of their contents, each
page with a stream of its own. -/
structure IsPageTree (objects contents : List (List Char))
    (pages streams : List Nat) :
    Prop where
  catalog : objectAt objects 1 = some catalogText
  tree : objectAt objects 2 = some (treeText pages)
  font : objectAt objects 3 = some fontText
  mem_pages : ∀ number, number ∈ pages ↔
    ∃ object, objectAt objects number = some object ∧
    IsPage object
  mem_streams : ∀ number, number ∈ streams ↔
    ∃ object, objectAt objects number = some object ∧
    IsStream object
  pages_length : pages.length = contents.length
  streams_length : streams.length = contents.length
  pages_nodup : pages.Nodup
  streams_nodup : streams.Nodup
  page : ∀ (i : Nat) content, contents[i]? = some content →
    ∃ number own, pages[i]? = some number ∧
    streams[i]? = some own ∧ objectAt objects number = some (pageText own) ∧
      objectAt objects own = some (streamText content)

/-! ### Entries and offsets -/

/-- An offset below ten to the ten has ten digits at most. -/
theorem length_digits_le {n : Nat} (h : n < 10000000000) :
    (digits n).length ≤ 10 :=
  (Nat.length_toDigits_le_iff (by decide) (by decide)).mpr h

/-- The entry of an offset of ten digits at most. -/
theorem isEntryFor_crossReference {offset : Nat} (h : offset < 10000000000) :
    IsEntryFor (crossReference offset) offset := by
  have hfits : (Nat.toDigits 10 offset).length ≤ 10 := length_digits_le h
  have hten : (Duration.padded 10 offset).length = 10 := by
    rw [Duration.padded, List.length_append, List.length_replicate]
    omega
  have htake : (crossReference offset).take 10 = Duration.padded 10 offset :=
    List.take_left' hten
  refine ⟨?_, fun c hc => ?_, ?_, List.drop_left' hten⟩
  · rw [crossReference, List.length_append, hten]
    rfl
  · rw [htake, Duration.padded] at hc
    rcases List.mem_append.mp hc with hzero | hdigit
    · rw [List.eq_of_mem_replicate hzero]
      rfl
    · exact Numeral.isDigit_of_mem_toDigits hdigit
  · rw [htake, Duration.padded, Nat.ofDigitChars_append,
      Nat.ofDigitChars_replicate_zero, Nat.mul_zero]
    exact Nat.ofDigitChars_toDigits (by decide) (by decide)

/-- There is an offset for every object. -/
theorem length_offsets (start number : Nat) (objects : List (List Char)) :
    (offsets start number objects).length = objects.length := by
  induction objects generalizing start number with
  | nil => rfl
  | cons object rest ih => rw [offsets, List.length_cons, ih, List.length_cons]

/-- The body of a file is its objects, numbered one after another. -/
theorem body_eq (number : Nat) (objects : List (List Char)) :
    body number objects =
      (objects.mapIdx fun i object =>
        numbered (number + i) object).flatten := by
  induction objects generalizing number with
  | nil => rfl
  | cons object rest ih =>
      rw [body, ih, List.mapIdx_cons, List.flatten_cons]
      simp only [Nat.add_zero, Nat.add_assoc, Nat.add_comm 1]

/-- **Every object is where its offset says.** -/
theorem standsAt_of_offset {objects : List (List Char)} {front : List Char}
    {number i : Nat} {object : List Char} {offset : Nat}
    (hobject : objects[i]? = some object)
    (hoffset : (offsets front.length number objects)[i]? = some offset)
    (rest : List Char) :
    StandsAt (front ++ (body number objects ++ rest)) offset
      (numbered (number + i) object) ∧
      offset ≤ front.length + (body number objects).length := by
  induction objects generalizing front number i with
  | nil => cases hobject
  | cons first later ih =>
      cases i with
      | zero =>
          cases hobject
          cases hoffset
          refine ⟨?_, by omega⟩
          rw [StandsAt, List.drop_left, body, List.append_assoc]
          exact List.prefix_append _ _
      | succ i =>
          have hnext : front.length + (numbered number first).length =
              (front ++ numbered number first).length := List.length_append.symm
          rw [offsets, List.getElem?_cons_succ, hnext] at hoffset
          obtain ⟨hstands, hbound⟩ := ih hobject hoffset
          rw [← hnext] at hbound
          rw [body, List.length_append, List.append_assoc,
            ← List.append_assoc front,
            show number + (i + 1) = number + 1 + i by omega]
          exact ⟨hstands, by omega⟩

/-! ### One byte a character -/

section Ascii

variable {s t : List Char}

@[simp] theorem isAscii_nil : IsAscii [] :=
  List.forall_mem_nil _

@[simp] theorem isAscii_append : IsAscii (s ++ t) ↔ IsAscii s ∧ IsAscii t :=
  List.forall_mem_append

/-- A text written item by item is ASCII if every item is. -/
theorem IsAscii.flatMap {α : Type} {f : α → List Char} {items : List α}
    (h : ∀ a, IsAscii (f a)) : IsAscii (items.flatMap f) := by
  intro c hc
  obtain ⟨a, -, ha⟩ := List.mem_flatMap.mp hc
  exact h a c ha

/-- A literal is ASCII if all of its characters are. -/
theorem IsAscii.literal (h : s.all (·.toNat < 128)) :
    IsAscii (String.ofList s).toList := by
  rw [String.toList_ofList]
  exact fun c hc => of_decide_eq_true (List.all_eq_true.mp h c hc)

@[simp] theorem isAscii_digits (n : Nat) : IsAscii (digits n) := by
  intro c hc
  have hrange := Char.isDigit_iff_toNat.mp (Numeral.isDigit_of_mem_toDigits hc)
  have hnine : '9'.toNat = 57 := rfl
  omega

/-- The bytes of an ASCII text are its characters. -/
theorem bytes_of_isAscii (h : IsAscii s) :
    (String.ofList s).toByteArray.data.toList = s.map fun c =>
      c.val.toUInt8 := by
  have hbyte : ∀ c ∈ s, String.utf8EncodeChar c = [c.val.toUInt8] := by
    intro c hc
    have hcode : c.val ≤ 127 :=
      UInt32.le_iff_toNat_le.mpr (Nat.le_of_lt_succ (h c hc))
    exact String.utf8EncodeChar_eq_singleton
      (Char.utf8Size_eq_one_iff.mpr hcode)
  rw [String.toByteArray_ofList, List.utf8Encode, List.toList_data_toByteArray,
    List.flatMap_congr hbyte, ← List.map_eq_flatMap]

/-- An ASCII text is as many bytes as characters. -/
theorem utf8ByteSize_of_isAscii (h : IsAscii s) :
    (String.ofList s).utf8ByteSize = s.length := by
  have hbytes := congrArg List.length (bytes_of_isAscii h)
  rwa [List.length_map, Array.length_toList] at hbytes

end Ascii

/-- **What cannot be printed is written as something that can.** -/
@[simp] theorem isAscii_escape (s : List Char) : IsAscii (escape s) := by
  refine .flatMap fun c => ?_
  unfold escapeChar
  split
  next hspecial =>
    rcases hspecial with rfl | rfl | rfl <;> decide
  split
  · decide
  split
  next hprintable =>
    have hle : c ≤ '~' :=
      of_decide_eq_true (Bool.and_eq_true_iff.mp hprintable).2
    have htilde : c.toNat ≤ 126 := hle
    simpa [IsAscii] using Nat.lt_succ_of_le (Nat.le_succ_of_le htilde)
  · decide

/-! ### The texts that are written -/

theorem toList_toString (n : Nat) : (toString n).toList = digits n :=
  Nat.toList_repr

theorem toString_text (s : String) : toString s = s := rfl

/-- The trailer as a list of characters. -/
theorem trailer_eq (count start : Nat) : trailer count start =
    "trailer\n<< /Size ".toList ++ digits (count + 1) ++
      " /Root 1 0 R >>\nstartxref\n".toList ++ digits start ++
      "\n%%EOF\n".toList := by
  simp only [trailer, String.toList_append, toList_toString, toString_text]

/-- The cross-reference table as a list of characters: its head, the entry of
the free object, and one for each object. -/
theorem crossReferences_eq (offsets : List Nat) : crossReferences offsets =
    "xref\n0 ".toList ++ digits (offsets.length + 1) ++ "\n".toList ++
      "0000000000 65535 f \n".toList ++
      (offsets.map crossReference).flatten := by
  simp only [crossReferences, String.toList_append, toList_toString,
    toString_text, List.flatMap_def]

/-- The content of a page. -/
def contentOf (title : List Char) (index : Nat) (lines : List (List Char)) :
    List Char :=
  stream (if index = 0 then some title else none) lines

/-- The two objects of a page: the page itself, and the stream that it refers
to. -/
theorem pageObjects_eq (title : List Char) (index : Nat)
    (lines : List (List Char)) :
    pageObjects title index lines =
      [pageText (pageObject index + 1),
        streamText (contentOf title index lines)] := by
  simp only [pageObjects, String.toList_append, toList_toString, toString_text]
  rfl

/-- The numbers of the page objects. -/
def pageNumbers (count : Nat) : List Nat :=
  (List.range count).map pageObject

@[simp] theorem length_pageNumbers (count : Nat) :
    (pageNumbers count).length = count := by
  rw [pageNumbers, List.length_map, List.length_range]

/-- The pages that the tree lists are referred to by their numbers. -/
theorem kids_eq (count : Nat) :
    kids count = references (pageNumbers count) := by
  have hreference : String.toList ∘ (fun i => s!"{pageObject i} 0 R") =
      (fun number => digits number ++ " 0 R".toList) ∘ pageObject := by
    funext i
    simp only [Function.comp_apply, String.toList_append, toList_toString,
      toString_text]
  rw [kids, references, pageNumbers, String.toList_intercalate, List.map_map,
    List.map_map, hreference]

/-- The content of a page is ASCII, since its title and lines are escaped. -/
theorem isAscii_stream (title : Option (List Char)) (lines : List (List Char)) :
    IsAscii (stream title lines) := by
  have hlines :
      IsAscii (lines.flatMap fun line =>
        '(' :: (escape line ++ ") Tj T*\n".toList)) := by
    refine .flatMap fun line => ?_
    have hopen : IsAscii ['('] := by decide
    exact isAscii_append.mpr ⟨hopen, isAscii_append.mpr
      ⟨isAscii_escape line, .literal rfl⟩⟩
  unfold stream
  cases title
  all_goals
    simp only [String.toList_append, toList_toString, toString_text,
      isAscii_nil, isAscii_append, isAscii_digits, isAscii_escape, hlines,
      and_true, true_and]
    repeat' constructor
  all_goals exact .literal rfl

theorem isAscii_pageText (content : Nat) : IsAscii (pageText content) := by
  unfold pageText
  simp only [isAscii_append, isAscii_digits, and_true]
  repeat' constructor
  all_goals exact .literal rfl

/-- A stream is ASCII if its content is. -/
theorem isAscii_streamText {content : List Char} (h : IsAscii content) :
    IsAscii (streamText content) := by
  unfold streamText
  simp only [isAscii_append, isAscii_digits, h, and_true]
  repeat' constructor
  all_goals exact .literal rfl

/-- References are digits with blanks between them. -/
theorem isAscii_references (numbers : List Nat) :
    IsAscii (references numbers) := by
  have hreference : ∀ number, IsAscii (digits number ++ " 0 R".toList) :=
    fun number => isAscii_append.mpr ⟨isAscii_digits number, .literal rfl⟩
  unfold references
  induction numbers with
  | nil => exact isAscii_nil
  | cons number rest ih =>
      cases rest with
      | nil =>
          rw [List.map_singleton, List.intercalate_singleton]
          exact hreference number
      | cons next rest =>
          rw [List.map_cons, List.map_cons, List.intercalate_cons_cons]
          exact isAscii_append.mpr ⟨isAscii_append.mpr
            ⟨hreference number, .literal rfl⟩, ih⟩

theorem isAscii_treeText (pages : List Nat) : IsAscii (treeText pages) := by
  unfold treeText
  simp only [isAscii_append, isAscii_digits, isAscii_references, and_true]
  repeat' constructor
  all_goals exact .literal rfl

/-! ### The objects -/

variable (title : List Char) (pages : List (List (List Char)))

/-- The objects before the pages. -/
def frontMatter (pages : List Nat) : List (List Char) :=
  [catalogText, treeText pages, fontText]

/-- The objects of a document: catalog, page tree and font, then two for each
page. -/
theorem objects_eq : objects title pages =
    frontMatter (pageNumbers pages.length) ++
    pageObjectsFrom title 0 pages := by
  unfold objects frontMatter treeText catalogText fontText
  simp only [kids_eq, String.toList_append, toList_toString, toString_text,
    length_pageNumbers, List.append_assoc, List.cons_append, List.nil_append]

/-- Of the objects of the pages, every other one is a page, and the stream of a
page follows it. -/
theorem getElem?_pageObjectsFrom (index i : Nat) :
    (pageObjectsFrom title index pages)[2 * i]? =
        pages[i]?.map (fun _ => pageText (pageObject (index + i) + 1)) ∧
      (pageObjectsFrom title index pages)[2 * i + 1]? =
        pages[i]?.map fun lines =>
          streamText (contentOf title (index + i) lines) := by
  induction pages generalizing index i with
  | nil => exact ⟨rfl, rfl⟩
  | cons lines rest ih =>
      rw [pageObjectsFrom, pageObjects_eq]
      cases i with
      | zero => exact ⟨rfl, rfl⟩
      | succ i =>
          obtain ⟨hpage, hstream⟩ := ih (index + 1) i
          rw [Nat.add_right_comm, Nat.add_assoc] at hpage hstream
          exact ⟨hpage, hstream⟩

/-- The objects of the pages are numbered from four on. -/
theorem objectAt_add_four (n : Nat) :
    objectAt (objects title pages) (n + 4) =
      (pageObjectsFrom title 0 pages)[n]? := by
  rw [objects_eq]
  rfl

/-- The object with the number of a page is the page, and refers to the next
object. -/
theorem objectAt_pageObject (i : Nat) :
    objectAt (objects title pages) (pageObject i) =
    pages[i]?.map fun _ => pageText (pageObject i + 1) := by
  have hplace : pageObject i = 2 * i + 4 := Nat.add_comm _ _
  have hpage := (getElem?_pageObjectsFrom title pages 0 i).1
  rwa [Nat.zero_add, ← objectAt_add_four, ← hplace] at hpage

/-- The object after a page is the stream with the content of that page. -/
theorem objectAt_streamObject (i : Nat) :
    objectAt (objects title pages) (pageObject i + 1) =
    pages[i]?.map fun lines => streamText (contentOf title i lines) := by
  have hplace : pageObject i + 1 = 2 * i + 1 + 4 := by rw [pageObject]; omega
  have hstream := (getElem?_pageObjectsFrom title pages 0 i).2
  rwa [Nat.zero_add, ← objectAt_add_four, ← hplace] at hstream

variable {title pages} {number : Nat} {object : List Char}

/-- **The objects that there are**: those before the pages, pages and
streams. -/
theorem objectAt_cases
    (h : objectAt (objects title pages) number = some object) :
    object ∈ frontMatter (pageNumbers pages.length) ∨
      (∃ i < pages.length, number = pageObject i ∧
        object = pageText (pageObject i + 1)) ∨
      ∃ i lines, pages[i]? = some lines ∧ number = pageObject i + 1 ∧
        object = streamText (contentOf title i lines) := by
  match number with
  | 0 => cases h
  | 1 | 2 | 3 =>
      simp only [objects_eq, frontMatter, objectAt, List.cons_append,
        List.getElem?_cons_zero, List.getElem?_cons_succ, Option.some_inj] at h
      simp only [← h, frontMatter, List.mem_cons, true_or, or_true]
  | n + 4 =>
      right
      obtain ⟨i, rfl | rfl⟩ : ∃ i, n = 2 * i ∨ n = 2 * i + 1 :=
        ⟨n / 2, by omega⟩
      · have hplace : 2 * i + 4 = pageObject i := Nat.add_comm _ _
        rw [hplace, objectAt_pageObject] at h
        obtain ⟨lines, hlines, rfl⟩ := Option.map_eq_some_iff.mp h
        exact Or.inl ⟨i, (List.getElem?_eq_some_iff.mp hlines).1, hplace, rfl⟩
      · have hplace : 2 * i + 1 + 4 = pageObject i + 1 := by
          rw [pageObject]; omega
        rw [hplace, objectAt_streamObject] at h
        obtain ⟨lines, hlines, rfl⟩ := Option.map_eq_some_iff.mp h
        exact Or.inr ⟨i, lines, hlines, hplace, rfl⟩

/-! ### Pages and streams -/

/-- Whether a literal starts with another is decided on their characters. -/
theorem prefix_literal {s t : List Char} (h : s.isPrefixOf t) :
    (String.ofList s).toList <+: (String.ofList t).toList := by
  rwa [String.toList_ofList, String.toList_ofList, ← List.isPrefixOf_iff_prefix]

/-- The same for a literal that does not. -/
theorem not_prefix_literal {s t : List Char} (h : s.isPrefixOf t = false) :
    ¬ (String.ofList s).toList <+: (String.ofList t).toList := by
  rw [String.toList_ofList, String.toList_ofList,
    ← List.isPrefixOf_iff_prefix, h]
  exact Bool.false_ne_true

/-- The object of a page says that it is a page. -/
theorem isPage_pageText (content : Nat) : IsPage (pageText content) := by
  unfold IsPage pageText
  simp only [List.append_assoc]
  exact .trans (prefix_literal rfl) (List.prefix_append _ _)

/-- A stream says how long it is. -/
theorem isStream_streamText (content : List Char) :
    IsStream (streamText content) := by
  unfold IsStream streamText
  simp only [List.append_assoc]
  exact List.prefix_append _ _

/-- Of two texts that differ before either ends, an object starts with one at
most. -/
theorem not_prefix_of_differ {s t : List Char} (hs : s <+: object)
    (hst : ¬ s <+: t) (hts : ¬ t <+: s) : ¬ t <+: object := fun ht =>
  (List.prefix_or_prefix_of_prefix hs ht).elim hst hts

/-- A page is no stream: the first name in its object is another one. -/
theorem not_isStream_of_isPage (h : IsPage object) : ¬ IsStream object :=
  not_prefix_of_differ h (not_prefix_literal rfl) (not_prefix_literal rfl)

/-- The objects before the pages are neither pages nor streams. -/
theorem neither_of_mem_frontMatter {numbers : List Nat}
    (h : object ∈ frontMatter numbers) :
    ¬ IsPage object ∧ ¬ IsStream object := by
  have htree : "<< /Type /Pages ".toList <+: treeText numbers := by
    unfold treeText
    simp only [List.append_assoc]
    exact .trans (prefix_literal rfl) (List.prefix_append _ _)
  simp only [frontMatter, List.mem_cons, List.not_mem_nil, or_false] at h
  rcases h with hcatalog | htreeText | hfont
  · rw [hcatalog]
    exact ⟨not_prefix_literal rfl, not_prefix_literal rfl⟩
  · rw [htreeText]
    exact ⟨not_prefix_of_differ htree (not_prefix_literal rfl)
      (not_prefix_literal rfl),
      not_prefix_of_differ htree (not_prefix_literal rfl)
        (not_prefix_literal rfl)⟩
  · rw [hfont]
    exact ⟨not_prefix_literal rfl, not_prefix_literal rfl⟩

/-- The numbers of the stream objects. -/
def streamNumbers (count : Nat) : List Nat :=
  (pageNumbers count).map (· + 1)

@[simp] theorem length_streamNumbers (count : Nat) :
    (streamNumbers count).length = count := by
  rw [streamNumbers, List.length_map, length_pageNumbers]

/-- The number of a page is that of its place. -/
theorem mem_pageNumbers {count : Nat} :
    number ∈ pageNumbers count ↔ ∃ i < count, number = pageObject i := by
  simp [pageNumbers, eq_comm]

/-- The number of a stream is the one after its page. -/
theorem mem_streamNumbers {count : Nat} :
    number ∈ streamNumbers count ↔ ∃ i < count, number = pageObject i + 1 := by
  simp [streamNumbers, pageNumbers, eq_comm]

/-- The numbers of the pages are those of the objects that say they are
pages. -/
theorem mem_pageNumbers_iff : number ∈ pageNumbers pages.length ↔
    ∃ object, objectAt (objects title pages) number = some object ∧
      IsPage object := by
  rw [mem_pageNumbers]
  constructor
  · rintro ⟨i, hi, rfl⟩
    refine ⟨pageText (pageObject i + 1), ?_, isPage_pageText _⟩
    rw [objectAt_pageObject, List.getElem?_eq_getElem hi, Option.map_some]
  · rintro ⟨object, hobject, hpage⟩
    rcases objectAt_cases hobject with hfront | ⟨i, hi, hnumber, -⟩ |
      ⟨i, lines, -, -, rfl⟩
    · exact absurd hpage (neither_of_mem_frontMatter hfront).1
    · exact ⟨i, hi, hnumber⟩
    · exact absurd (isStream_streamText _) (not_isStream_of_isPage hpage)

/-- The numbers of the streams are those of the objects that say how long they
are. -/
theorem mem_streamNumbers_iff : number ∈ streamNumbers pages.length ↔
    ∃ object, objectAt (objects title pages) number = some object ∧
      IsStream object := by
  rw [mem_streamNumbers]
  constructor
  · rintro ⟨i, hi, rfl⟩
    refine ⟨streamText (contentOf title i pages[i]), ?_, isStream_streamText _⟩
    rw [objectAt_streamObject, List.getElem?_eq_getElem hi, Option.map_some]
  · rintro ⟨object, hobject, hstream⟩
    rcases objectAt_cases hobject with hfront | ⟨i, hi, -, rfl⟩ |
      ⟨i, lines, hlines, hnumber, -⟩
    · exact absurd hstream (neither_of_mem_frontMatter hfront).2
    · exact absurd hstream (not_isStream_of_isPage (isPage_pageText _))
    · exact ⟨i, (List.getElem?_eq_some_iff.mp hlines).1, hnumber⟩

/-- **The page tree** lists the pages, and each page has its content. -/
theorem isPageTree_objects (title : List Char)
    (pages : List (List (List Char))) :
    IsPageTree (objects title pages) (pages.mapIdx (contentOf title))
      (pageNumbers pages.length) (streamNumbers pages.length) := by
  have hinjective : Function.Injective pageObject := fun i j h => by
    simp only [pageObject] at h
    omega
  have hnodup : (pageNumbers pages.length).Nodup :=
    List.nodup_range.map hinjective
  have hfront : ∀ number < 3, (objects title pages)[number]? =
      (frontMatter (pageNumbers pages.length))[number]? :=
    fun number hnumber => by
    rw [objects_eq, List.getElem?_append_left hnumber]
  refine ⟨hfront 0 (by decide), hfront 1 (by decide), hfront 2 (by decide),
    fun _ => mem_pageNumbers_iff,
    fun _ => mem_streamNumbers_iff, by simp, by simp, hnodup,
    hnodup.map (fun _ _ => Nat.succ.inj), fun i content hcontent => ?_⟩
  obtain ⟨lines, hlines, rfl⟩ :=
    Option.map_eq_some_iff.mp (List.getElem?_mapIdx ▸ hcontent)
  have hi := (List.getElem?_eq_some_iff.mp hlines).1
  have hpage : (pageNumbers pages.length)[i]? = some (pageObject i) := by
    rw [pageNumbers, List.getElem?_map, List.getElem?_range hi, Option.map_some]
  refine ⟨pageObject i, pageObject i + 1, hpage, ?_, ?_, ?_⟩
  · rw [streamNumbers, List.getElem?_map, hpage, Option.map_some]
  · rw [objectAt_pageObject, hlines, Option.map_some]
  · rw [objectAt_streamObject, hlines, Option.map_some]

/-! ### The file -/

theorem isAscii_pageObjectsFrom (index : Nat) :
    ∀ object ∈ pageObjectsFrom title index pages, IsAscii object := by
  induction pages generalizing index with
  | nil => exact List.forall_mem_nil _
  | cons lines rest ih =>
      rw [pageObjectsFrom, pageObjects_eq]
      have hcontent : IsAscii (contentOf title index lines) :=
        isAscii_stream _ _
      simp only [List.cons_append, List.nil_append, List.forall_mem_cons]
      exact ⟨isAscii_pageText _, isAscii_streamText hcontent, ih (index + 1)⟩

/-- All objects of a document are ASCII. -/
theorem isAscii_objects : ∀ object ∈ objects title pages, IsAscii object := by
  rw [objects_eq, List.forall_mem_append]
  refine ⟨?_, isAscii_pageObjectsFrom 0⟩
  simp only [frontMatter, List.forall_mem_cons]
  exact ⟨.literal rfl, isAscii_treeText _, .literal rfl, List.forall_mem_nil _⟩

/-- A body is ASCII if its objects are. -/
theorem isAscii_body {number : Nat} {objects : List (List Char)}
    (h : ∀ object ∈ objects, IsAscii object) :
    IsAscii (body number objects) := by
  induction objects generalizing number with
  | nil => exact isAscii_nil
  | cons object rest ih =>
      obtain ⟨hobject, hrest⟩ := List.forall_mem_cons.mp h
      simp only [body, numbered, isAscii_append, isAscii_digits, hobject,
        ih hrest, and_true, true_and]
      exact ⟨.literal rfl, .literal rfl⟩

theorem isAscii_crossReference (offset : Nat) :
    IsAscii (crossReference offset) := by
  have hzeros : ∀ n, IsAscii (List.replicate n '0') := fun n c hc => by
    rw [List.eq_of_mem_replicate hc]
    decide
  unfold crossReference Duration.padded
  exact isAscii_append.mpr
    ⟨isAscii_append.mpr ⟨hzeros _, isAscii_digits offset⟩, .literal rfl⟩

theorem isAscii_crossReferences (offsets : List Nat) :
    IsAscii (crossReferences offsets) := by
  have hentries : IsAscii (offsets.map crossReference).flatten := by
    rw [← List.flatMap_def]
    exact .flatMap isAscii_crossReference
  rw [crossReferences_eq]
  simp only [isAscii_append, isAscii_digits, hentries, and_true]
  repeat' constructor
  all_goals exact .literal rfl

theorem isAscii_trailer (count start : Nat) :
    IsAscii (trailer count start) := by
  rw [trailer_eq]
  simp only [isAscii_append, isAscii_digits, and_true]
  repeat' constructor
  all_goals exact .literal rfl

/-- Header and objects of a file. -/
def front (title : List Char) (pages : List (List (List Char))) : List Char :=
  header ++ body 1 (objects title pages)

/-- The offsets of the objects of a file. -/
def places (title : List Char) (pages : List (List (List Char))) : List Nat :=
  offsets header.length 1 (objects title pages)

/-- A file is its front, the table with the places of its objects, and the
trailer that says where the table is. -/
theorem file_eq (title : List Char) (pages : List (List (List Char))) :
    file title pages =
    front title pages ++ (crossReferences (places title pages) ++
      trailer (objects title pages).length (front title pages).length) :=
  List.append_assoc _ _ _

/-- Every object has a place. -/
theorem length_places (title : List Char) (pages : List (List (List Char))) :
    (places title pages).length = (objects title pages).length :=
  length_offsets _ _ _

/-- **Every character of a file is one byte.** -/
theorem isAscii_file (title : List Char) (pages : List (List (List Char))) :
    IsAscii (file title pages) := by
  rw [file_eq]
  refine isAscii_append.mpr ⟨isAscii_append.mpr ⟨.literal rfl,
    isAscii_body isAscii_objects⟩, ?_⟩
  exact isAscii_append.mpr ⟨isAscii_crossReferences _, isAscii_trailer _ _⟩

/-- All objects are in the front of the file. -/
theorem places_le {offset : Nat} (title : List Char)
    (pages : List (List (List Char))) (h : offset ∈ places title pages) :
    offset ≤ (front title pages).length := by
  obtain ⟨i, hplace⟩ := List.mem_iff_getElem?.mp h
  have hi : i < (objects title pages).length :=
    length_places title pages ▸ (List.getElem?_eq_some_iff.mp hplace).1
  rw [front, List.length_append]
  exact (standsAt_of_offset (List.getElem?_eq_getElem hi) hplace []).2

/-- **The cross-reference table** is where the trailer says, and the objects are
where the table says. -/
theorem isIndexed_file (title : List Char) (pages : List (List (List Char)))
    (hsize : (front title pages).length < 10000000000) :
    IsIndexed (file title pages) (objects title pages)
      ((places title pages).map crossReference) (front title pages).length := by
  refine ⟨?_, ?_, ?_, fun i object hobject => ?_⟩
  · have hbody : body 1 (objects title pages) =
        ((objects title pages).mapIdx fun i object =>
          numbered (i + 1) object).flatten := by
      simp only [body_eq, Nat.add_comm 1]
    rw [file_eq, List.take_left]
    exact congrArg (header ++ ·) hbody
  · rw [file_eq, List.drop_left, crossReferences_eq, trailer_eq, length_places]
  · rw [List.length_map, length_places]
  · have hi : i < (places title pages).length :=
      length_places title pages ▸ (List.getElem?_eq_some_iff.mp hobject).1
    have hplace := List.getElem?_eq_getElem hi
    have hfits :=
      Nat.lt_of_le_of_lt (places_le title pages (List.getElem_mem hi)) hsize
    refine ⟨crossReference (places title pages)[i], (places title pages)[i], ?_,
      isEntryFor_crossReference hfits, ?_⟩
    · rw [List.getElem?_map, hplace, Option.map_some]
    · rw [file_eq, front, List.append_assoc, Nat.add_comm i]
      exact (standsAt_of_offset hobject hplace _).1

/-- A literal is as long as the list of its characters. -/
theorem length_literal (s : List Char) :
    (String.ofList s).toList.length = s.length :=
  congrArg List.length String.toList_ofList

/-- After the objects of a file come twenty characters for each of them, and
some more. -/
theorem length_file_le {title : List Char} {pages : List (List (List Char))}
    (hsize : (front title pages).length < 10000000000)
    (hcount : (objects title pages).length + 1 < 10000000000) :
    (file title pages).length ≤
      (front title pages).length + 20 * (objects title pages).length + 108 := by
  have hentries : ((places title pages).map crossReference).flatten.length =
      20 * (objects title pages).length := by
    have htwenty : ((places title pages).map crossReference).map List.length =
        List.replicate (objects title pages).length 20 := by
      refine List.eq_replicate_iff.mpr ⟨?_, fun n hn => ?_⟩
      · rw [List.length_map, List.length_map, length_places]
      · obtain ⟨entry, hentry, rfl⟩ := List.mem_map.mp hn
        obtain ⟨offset, hoffset, rfl⟩ := List.mem_map.mp hentry
        have hle := places_le title pages hoffset
        exact (isEntryFor_crossReference (Nat.lt_of_le_of_lt hle hsize)).length
    rw [List.length_flatten, htwenty, List.sum_replicate_nat, Nat.mul_comm]
  have hcountDigits := length_digits_le hcount
  have hstartDigits := length_digits_le hsize
  rw [file_eq, crossReferences_eq, trailer_eq, length_places]
  simp only [List.length_append, hentries]
  have hxref : "xref\n0 ".toList.length = 7 := length_literal _
  have hfree : "0000000000 65535 f \n".toList.length = 20 := length_literal _
  have hbreak : "\n".toList.length = 1 := length_literal _
  have htrailer : "trailer\n<< /Size ".toList.length = 17 := length_literal _
  have hroot : " /Root 1 0 R >>\nstartxref\n".toList.length = 26 :=
    length_literal _
  have hend : "\n%%EOF\n".toList.length = 7 := length_literal _
  omega

/-- **A printable file is well formed**, for every title and all lines, if
offsets in it have ten digits at most.  Each of its characters is one byte.  Its
cross-reference table is where the trailer says, counts the objects and the free
entry, and says where every object is; and the page tree lists the pages, each
with the stream of its content and the length of it. -/
theorem document_well_formed (title : String) (lines : List String)
    (hsize : (document title lines).utf8ByteSize < 10000000000) :
    let file := (document title lines).toList
    let pages := paginate (lines.flatMap fun line => wrap line.toList)
    IsAscii file ∧
      (document title lines).toByteArray.data.toList =
        file.map (fun c => c.val.toUInt8) ∧
      ∃ objects entries start pageNumbers streamNumbers,
        IsIndexed file objects entries start ∧
          IsPageTree objects (pages.mapIdx (contentOf title.toList)) pageNumbers
            streamNumbers := by
  intro file pages
  have hdocument :
    document title lines = String.ofList (Pdf.file title.toList pages) := rfl
  have hfile : file = Pdf.file title.toList pages := String.toList_ofList
  have hascii : IsAscii (Pdf.file title.toList pages) := isAscii_file _ _
  have hlength : (front title.toList pages).length < 10000000000 := by
    rw [hdocument, utf8ByteSize_of_isAscii hascii, file_eq, List.length_append]
      at hsize
    omega
  rw [hfile, hdocument]
  exact ⟨hascii, bytes_of_isAscii hascii, _, _, _, _, _,
    isIndexed_file _ _ hlength, isPageTree_objects _ _⟩

/-- A file whose texts look like parts of a file. -/
theorem misleading_document_well_formed :
    let title := "Café (new)"
    let lines := ["endstream", "7 0 obj", "\\"]
    let pages :=
      [[['e', 'n', 'd', 's', 't', 'r', 'e', 'a', 'm'],
        ['7', ' ', '0', ' ', 'o', 'b', 'j'], ['\\']]]
    (document title lines).utf8ByteSize < 10000000000 ∧
      IsAscii (document title lines).toList ∧
      ∃ objects entries start pageNumbers streamNumbers,
        IsIndexed (document title lines).toList objects entries start ∧
          IsPageTree objects (pages.mapIdx (contentOf title.toList)) pageNumbers
            streamNumbers := by
  intro title lines pages
  have hpages :
    paginate (lines.flatMap fun line => wrap line.toList) = pages := by
    decide +kernel
  have hfront : (front title.toList pages).length < 1000 := by decide +kernel
  have hcount : (objects title.toList pages).length = 5 := rfl
  have hsize : (document title lines).utf8ByteSize < 10000000000 := by
    have hfile : (file title.toList pages).length ≤ _ :=
      length_file_le (by omega) (by omega)
    rw [document, utf8ByteSize_of_isAscii (isAscii_file _ _), hpages]
    omega
  obtain ⟨hascii, -, hparts⟩ := document_well_formed title lines hsize
  rw [hpages] at hparts
  exact ⟨hsize, hascii, hparts⟩

end TemplateRegistry.Report.Pdf
