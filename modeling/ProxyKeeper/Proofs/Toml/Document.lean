/-
Documents of tables: what was written of one is read back, its values first
and then its sections (`read?_render`).

A document here has values in lines of their own, tables of such values and
arrays of such tables (`Document`). Its text is read piece by piece, and
`Reads` says of a piece what it makes of the tables read so far, whatever
follows it; pieces are put together by `Reads.append`. A value is added to the
table of the last header, and that is the last entry of the root or the last
element of that entry (`Place`), so nothing read before is touched.
-/
import Mathlib.Data.List.Nodup
import ProxyKeeper.Proofs.Toml.Values

namespace ProxyKeeper.Toml

/-! ## the last entry of a table -/

namespace Node

variable {name : String} {front : Entries}

theorem change_new (h : name ∉ front.map (·.1)) (f : Option Node → Option Node) :
    change name f front = (f none).map fun n => front ++ [(name, n)] := by
  induction front with
  | nil => rfl
  | cons entry front ih =>
    obtain ⟨other, n⟩ := entry
    simp only [List.map_cons, List.mem_cons, not_or] at h
    rw [change, if_neg (Ne.symm h.1), ih h.2, Option.map_map]
    rfl

theorem change_last (h : name ∉ front.map (·.1)) (f : Option Node → Option Node) (n : Node) :
    change name f (front ++ [(name, n)]) = (f (some n)).map fun n => front ++ [(name, n)] := by
  induction front with
  | nil => simp [change]
  | cons entry front ih =>
    obtain ⟨other, m⟩ := entry
    simp only [List.map_cons, List.mem_cons, not_or] at h
    rw [List.cons_append, change, if_neg (Ne.symm h.1), ih h.2, Option.map_map]
    rfl

theorem not_mem_concat {other : String} {n : Node} (h : other ∉ front.map (·.1)) (hne : other ≠ name) :
    other ∉ (front ++ [(name, n)]).map (·.1) := by
  rw [List.map_append, List.mem_append, not_or]
  exact ⟨h, fun he => hne (List.mem_singleton.1 he)⟩

theorem addKey_new {v : Toml} (h : name ∉ front.map (·.1)) :
    addKey [] name v front = some (front ++ [(name, .value v)]) := by
  rw [addKey, editAt, if_pos (.inl rfl), addNew, change_new h]
  rfl

theorem tomlEntries_append (a b : Entries) : tomlEntries (a ++ b) = tomlEntries a ++ tomlEntries b := by
  induction a with
  | nil => rfl
  | cons entry a ih =>
    obtain ⟨name, n⟩ := entry
    simp only [List.cons_append, tomlEntries, ih]

end Node

/-- Where the values below a header are added: `root` is what the document has come to when they are `inner`. -/
structure Place where
  header : List String
  root : Entries → Entries
  adds : ∀ {inner : Entries} {name : String} (v : Toml), name ∉ inner.map (·.1) →
    Node.addUnder header [] name v (root inner) = some (root (inner ++ [(name, .value v)]))

namespace Place

/-- In front of the first header. -/
def top : Place where
  header := []
  root inner := inner
  adds _ h := Node.addKey_new h

/-- Below the header of a table. -/
def table (front : Entries) (name : String) (new : name ∉ front.map (·.1)) : Place where
  header := [name]
  root inner := front ++ [(name, .table .header inner)]
  adds v h := by
    rw [Node.addUnder, Node.editAt, Node.change_last new]
    simp only [Node.editAt, Bool.false_eq_true, false_and, if_false, Node.addKey_new h]
    rfl

/-- Below the header of the latest element of an array of tables. -/
def element (front : Entries) (name : String) (new : name ∉ front.map (·.1)) (earlier : List Entries) : Place where
  header := [name]
  root inner := front ++ [(name, .tables (inner :: earlier))]
  adds v h := by
    rw [Node.addUnder, Node.editAt, Node.change_last new]
    simp only [Node.editAt, Node.addKey_new h]
    rfl

end Place

/-! ## pieces of a text -/

/-- The header that was read last, and the tables read so far. -/
abbrev Progress := List String × Entries

/-- What the lines of a piece of text make of what was read before them, whatever comes behind. No piece begins with
the mark that is dropped from the front of a text, and none holds a character that is dropped from within. -/
structure Reads (text : List Char) (before after : Progress) : Prop where
  unmarked : text.head? ≠ some '\ufeff'
  clean : '\r' ∉ text
  lines : ∃ n ≤ text.length, ∀ fuel rest,
    readLines (fuel + n) before.1 before.2 (text ++ rest) = readLines fuel after.1 after.2 rest

variable {text more : List Char} {before between after : Progress}

theorem Reads.nil (p : Progress) : Reads [] p p := ⟨nofun, List.not_mem_nil, 0, Nat.le_refl 0, fun _ _ => rfl⟩

theorem Reads.append (first : Reads text before between) (second : Reads more between after) :
    Reads (text ++ more) before after where
  unmarked := by
    cases text with
    | nil => exact second.unmarked
    | cons c text => exact first.unmarked
  clean := List.not_mem_append first.clean second.clean
  lines := by
    obtain ⟨n, hn, hfirst⟩ := first.lines
    obtain ⟨m, hm, hsecond⟩ := second.lines
    refine ⟨m + n, ?_, fun fuel rest => ?_⟩
    · rw [List.length_append]
      omega
    · rw [← Nat.add_assoc, List.append_assoc, hfirst, hsecond]

theorem normalize_of_not_mem (h : '\r' ∉ text) : normalize text = text := by
  induction text with
  | nil => rfl
  | cons c text ih =>
    simp only [List.mem_cons, not_or] at h
    rw [normalize, ih h.2]
    rintro rest rfl
    exact absurd rfl h.1

/-- A text that is one piece is read as what the piece makes of nothing. -/
theorem Reads.read? (h : Reads text ([], []) after) : read? (.ofList text) = some (Node.tomlEntries after.2) := by
  obtain ⟨n, hn, hlines⟩ := h.lines
  have hmark : dropMark text = text := by
    rw [dropMark]
    rintro rest rfl
    exact h.unmarked rfl
  obtain ⟨k, hk⟩ : ∃ k, text.length + 1 = k + 1 + n := ⟨text.length - n, by omega⟩
  have hread : readLines (text.length + 1) [] [] text = some after.2 := by
    have hall := hlines (k + 1) []
    rw [List.append_nil] at hall
    rw [hk, hall]
    rfl
  rw [Toml.read?, String.toList_ofList, hmark, normalize_of_not_mem h.clean, hread]
  rfl

/-! ## lines -/

variable {name : String} {v : Toml} {inner root front : Entries} {entries : List (String × Toml)}
  {header : List String}

theorem passLineEnd_newline (rest : List Char) : passLineEnd ('\n' :: rest) = some rest := rfl

theorem readLines_newline (fuel : Nat) (header : List String) (root : Entries) (rest : List Char) :
    readLines (fuel + 1) header root ('\n' :: rest) = readLines fuel header root rest := rfl

theorem readLines_entry {c : Char} {s rest : List Char} {root' : Entries} (fuel : Nat) (hc : isBareChar c = true)
    (hpair : readPair (readValue depthLimit) (c :: s) = some (([], name, v), '\n' :: rest))
    (hadd : Node.addUnder header [] name v root = some root') :
    readLines (fuel + 1) header root (c :: s) = readLines fuel header root' rest := by
  have hblank := isBlank_of_isBareChar hc
  have hbracket : c ≠ '[' := ne_of_isBareChar hc (by decide)
  have hnewline : c ≠ '\n' := ne_of_isBareChar hc (by decide)
  have hhash : c ≠ '#' := ne_of_isBareChar hc (by decide)
  have hskip : dropBlanks (c :: s) = c :: s := List.dropWhile_cons_of_neg (by simp [hblank])
  rw [readLines, hskip]
  split
  · contradiction
  · rename_i h
    exact absurd (List.cons.inj h).1 hbracket
  · rename_i h
    exact absurd (List.cons.inj h).1 hbracket
  · rename_i h
    cases h
    rw [if_neg (by simp [hnewline, hhash]), hpair]
    simp only [Option.bind_eq_bind, Option.bind_some, hadd, passLineEnd_newline]

theorem readHeader_bare (hname : Bare name) (brackets : Nat) (rest : List Char) :
    readHeader (brackets + 1) (name.toList ++ (List.replicate (brackets + 1) ']' ++ '\n' :: rest)) =
      some (([], name), rest) := by
  have hkey : readKey (name.toList ++ (List.replicate (brackets + 1) ']' ++ '\n' :: rest)) =
      some (([], name), List.replicate (brackets + 1) ']' ++ '\n' :: rest) :=
    readKey_bare hname (fun c hc => by cases hc; decide) (fun h => by cases h)
  rw [readHeader, hkey]
  simp only [Option.bind_eq_bind, Option.bind_some]
  rw [List.take_left' List.length_replicate, if_pos rfl, List.drop_left' List.length_replicate, passLineEnd_newline]
  rfl

theorem readLines_table (fuel : Nat) (hname : Bare name) (rest : List Char) :
    readLines (fuel + 1) header root ('[' :: (name.toList ++ ']' :: '\n' :: rest)) =
      (Node.openTable [] name root).bind fun root => readLines fuel [name] root rest := by
  obtain ⟨first, more, hs, hfirst⟩ := hname.opens
  have hbracket : first ≠ '[' := ne_of_isBareChar hfirst (by decide)
  have hskip : ∀ s, dropBlanks ('[' :: s) = '[' :: s := fun s => rfl
  have hheader := readHeader_bare hname 0 rest
  rw [readLines, hskip]
  split
  · contradiction
  · rename_i h
    rw [hs] at h
    exact absurd (List.cons.inj (List.cons.inj h).2).1 hbracket
  · rename_i h
    cases h
    rw [List.replicate_succ, List.replicate_zero, List.singleton_append] at hheader
    rw [hheader]
    rfl
  · rename_i hno h
    exact absurd (List.cons.inj h).1.symm hno

theorem readLines_element (fuel : Nat) (hname : Bare name) (rest : List Char) :
    readLines (fuel + 1) header root ('[' :: '[' :: (name.toList ++ ']' :: ']' :: '\n' :: rest)) =
      (Node.openElement [] name root).bind fun root => readLines fuel [name] root rest := by
  have hheader : readHeader 2 (name.toList ++ ']' :: ']' :: '\n' :: rest) = some (([], name), rest) :=
    readHeader_bare hname 1 rest
  have hskip : dropBlanks ('[' :: '[' :: (name.toList ++ ']' :: ']' :: '\n' :: rest)) =
      '[' :: '[' :: (name.toList ++ ']' :: ']' :: '\n' :: rest) := rfl
  rw [readLines, hskip]
  simp only [hheader, Option.bind_eq_bind, Option.bind_some]
  rfl

/-! ## pieces of a document -/

theorem Bare.return_not_mem (h : Bare name) : '\r' ∉ Toml.keyChars name := fun hc => by
  rw [h.keyChars] at hc
  exact ne_of_isBareChar (h.2 _ hc) (by decide) rfl

/-- A value is added below the header that was read last. -/
theorem reads_line (place : Place) (hname : Bare name) (hv : Leaf v) (hnew : name ∉ inner.map (·.1)) :
    Reads (keyChars name ++ " = ".toList ++ valueChars v ++ ['\n']) (place.header, place.root inner)
      (place.header, place.root (inner ++ [(name, .value v)])) := by
  obtain ⟨first, more, hs, hfirst⟩ := hname.opens
  refine ⟨?_, by simp [hname.return_not_mem, hv.return_not_mem], 1, by simp; omega, fun fuel rest => ?_⟩
  · rw [hname.keyChars, hs]
    exact fun h => ne_of_isBareChar hfirst (by decide) (Option.some.inj h)
  · have hpair := readPair_line hname hv rest
    rw [List.append_assoc, List.singleton_append]
    rw [hname.keyChars, hs] at hpair ⊢
    exact readLines_entry fuel hfirst hpair (place.adds v hnew)

/-- The entries of a table that has values in lines of their own and no others. -/
structure Leaves (entries : List (String × Toml)) : Prop where
  nodup : (entries.map (·.1)).Nodup
  bare : ∀ p ∈ entries, Bare p.1
  leaf : ∀ p ∈ entries, Leaf p.2

theorem Leaf.isSection (h : Leaf v) : isSection v = false := by
  cases h <;> rfl

theorem Leaf.sectionOf (h : Leaf v) (path : List String) : sectionOf path v = [] := by
  cases h <;> simp [Toml.sectionOf]

/-- Values as entries of a table under way. -/
def settled (entries : List (String × Toml)) : Entries := entries.map fun (name, v) => (name, .value v)

theorem tomlEntries_settled (entries : List (String × Toml)) : Node.tomlEntries (settled entries) = entries := by
  induction entries with
  | nil => rfl
  | cons entry entries ih =>
    obtain ⟨name, v⟩ := entry
    exact congrArg ((name, v) :: ·) ih

theorem Leaves.reads (place : Place) (h : Leaves entries) (hnew : ∀ p ∈ entries, p.1 ∉ inner.map (·.1)) :
    Reads (valueLines entries) (place.header, place.root inner)
      (place.header, place.root (inner ++ settled entries)) := by
  induction entries generalizing inner with
  | nil =>
    rw [settled, List.map_nil, List.append_nil]
    exact .nil _
  | cons entry entries ih =>
    obtain ⟨name, v⟩ := entry
    obtain ⟨hbare, hbares⟩ := List.forall_mem_cons.1 h.bare
    obtain ⟨hleaf, hleaves⟩ := List.forall_mem_cons.1 h.leaf
    obtain ⟨hfresh, hfreshes⟩ := List.forall_mem_cons.1 hnew
    obtain ⟨hname, hnodup⟩ := List.nodup_cons.1 h.nodup
    have hline : valueLines ((name, v) :: entries) =
        (keyChars name ++ " = ".toList ++ valueChars v ++ ['\n']) ++ valueLines entries := by
      have hvalue : isSection v = false := hleaf.isSection
      simp only [valueLines, List.flatMap_cons, hvalue, Bool.false_eq_true, if_false]
    have hlater : ∀ p ∈ entries, p.1 ∉ (inner ++ [(name, Node.value v)]).map (·.1) := by
      intro p hp
      have hmem : p.1 ∈ entries.map (·.1) := List.mem_map_of_mem hp
      exact Node.not_mem_concat (hfreshes p hp) fun he => hname (he ▸ hmem)
    have hrest := ih ⟨hnodup, hbares, hleaves⟩ hlater
    rw [List.append_assoc] at hrest
    rw [hline]
    exact (reads_line place hbare hleaf hfresh).append hrest

/-! ## sections -/

/-- A line end, a header of one name and what it opens. -/
theorem reads_header (hname : Bare name) {left right : String} {opened : Entries → Option Entries} {root' : Entries}
    (hlines : ∀ fuel rest,
      readLines (fuel + 1) header root (left.toList ++ (name.toList ++ (right.toList ++ '\n' :: rest))) =
        (opened root).bind fun root => readLines fuel [name] root rest)
    (hopened : opened root = some root') (hclean : '\r' ∉ left.toList ++ right.toList) :
    Reads (headerLine left right [name]) (header, root) ([name], root') := by
  have hline : headerLine left right [name] =
      '\n' :: (left.toList ++ (name.toList ++ (right.toList ++ ['\n']))) := by
    simp [headerLine, separated, hname.keyChars]
  have hkey := hname.return_not_mem
  rw [hname.keyChars] at hkey
  rw [hline]
  refine ⟨by simp, by simp_all, 2, by simp; omega, fun fuel rest => ?_⟩
  simp only [List.cons_append, List.append_assoc, List.nil_append]
  rw [readLines_newline, hlines, hopened]
  rfl

/-- The values of a section: a table of values, or an array of such tables. -/
inductive Section : Toml → Prop where
  | table {entries : List (String × Toml)} (h : Leaves entries) : Section (.table entries)
  | tables {first : List (String × Toml)} {others : List (List (String × Toml))}
    (h : ∀ entries ∈ first :: others, Leaves entries) : Section (.array ((first :: others).map .table))

theorem Section.isSection (h : Section v) : isSection v = true := by
  cases h <;> rfl

/-- There are no sections among values. -/
theorem Leaves.sectionChars (h : Leaves entries) (path : List String) : sectionChars path entries = [] := by
  have hleaf := h.leaf
  clear h
  induction entries with
  | nil => rw [Toml.sectionChars]
  | cons entry entries ih =>
    obtain ⟨name, v⟩ := entry
    obtain ⟨hv, hrest⟩ := List.forall_mem_cons.1 hleaf
    rw [Toml.sectionChars, hv.sectionOf, ih hrest]
    rfl

/-- The header of an element and its values. -/
theorem Leaves.reads_element (h : Leaves entries) (hname : Bare name) (hnew : name ∉ front.map (·.1))
    {elements : List Entries}
    (hopened : Node.openElement [] name root = some (front ++ [(name, .tables ([] :: elements))])) :
    Reads (headerLine "[[" "]]" [name] ++ valueLines entries) (header, root)
      ([name], front ++ [(name, .tables (settled entries :: elements))]) := by
  have hheader : Reads (headerLine "[[" "]]" [name]) (header, root)
      ([name], front ++ [(name, .tables ([] :: elements))]) :=
    reads_header hname (fun fuel rest => readLines_element fuel hname rest) hopened (by decide)
  exact hheader.append (h.reads (.element front name hnew elements) fun _ _ => List.not_mem_nil)

theorem reads_elements {tables : List (List (String × Toml))} (h : ∀ entries ∈ tables, Leaves entries)
    (hname : Bare name) (hnew : name ∉ front.map (·.1)) (elements : List Entries) :
    Reads (elementChars [name] (tables.map .table)) ([name], front ++ [(name, .tables elements)])
      ([name], front ++ [(name, .tables ((tables.map settled).reverse ++ elements))]) := by
  induction tables generalizing elements with
  | nil => exact .nil _
  | cons entries tables ih =>
    obtain ⟨hentries, htables⟩ := List.forall_mem_cons.1 h
    have hopened : Node.openElement [] name (front ++ [(name, .tables elements)]) =
        some (front ++ [(name, .tables ([] :: elements))]) := by
      rw [Node.openElement, Node.editAt, Node.change_last hnew]
      rfl
    have hrest := ih htables (settled entries :: elements)
    rw [List.map_cons, elementChars, hentries.sectionChars, List.append_nil, List.map_cons, List.reverse_cons,
      List.append_assoc (List.reverse _)]
    exact (hentries.reads_element hname hnew hopened).append hrest

theorem tomlElements_eq (elements : List Entries) :
    Node.tomlElements elements = (elements.map fun entries => .table (Node.tomlEntries entries)).reverse := by
  induction elements with
  | nil => rfl
  | cons entries elements ih => rw [Node.tomlElements, ih, List.map_cons, List.reverse_cons]

/-- A section becomes an entry of its own. -/
theorem Section.reads (h : Section v) (hname : Bare name) (hnew : name ∉ root.map (·.1)) (header : List String) :
    ∃ node : Node, node.toToml = v ∧
      Reads (sectionOf [name] v) (header, root) ([name], root ++ [(name, node)]) := by
  cases h with
  | @table entries hentries =>
    refine ⟨.table .header (settled entries), by rw [Node.toToml, tomlEntries_settled], ?_⟩
    have hopened : Node.openTable [] name root = some (root ++ [(name, .table .header [])]) := by
      rw [Node.openTable, Node.editAt, Node.change_new hnew]
      rfl
    have hheader : Reads (headerLine "[" "]" [name]) (header, root) ([name], root ++ [(name, .table .header [])]) :=
      reads_header hname (fun fuel rest => readLines_table fuel hname rest) hopened (by decide)
    rw [sectionOf, hentries.sectionChars, List.append_nil]
    exact hheader.append (hentries.reads (.table root name hnew) fun _ _ => List.not_mem_nil)
  | @tables first others hall =>
    obtain ⟨hfirst, hothers⟩ := List.forall_mem_cons.1 hall
    refine ⟨.tables ((others.map settled).reverse ++ [settled first]), ?_, ?_⟩
    · rw [Node.toToml, tomlElements_eq]
      simp [tomlEntries_settled, Function.comp_def]
    · have hopened : Node.openElement [] name root = some (root ++ [(name, .tables ([] :: []))]) := by
        rw [Node.openElement, Node.editAt, Node.change_new hnew]
        rfl
      rw [List.map_cons, sectionOf, hfirst.sectionChars, List.append_nil]
      exact (hfirst.reads_element hname hnew hopened).append (reads_elements hothers hname hnew [settled first])

/-! ## documents -/

/-- The entries of a document of values and sections, in any order. -/
structure Document (entries : List (String × Toml)) : Prop where
  nodup : (entries.map (·.1)).Nodup
  bare : ∀ p ∈ entries, Bare p.1
  kind : ∀ p ∈ entries, Leaf p.2 ∨ Section p.2

/-- The sections are added in their order. -/
theorem Document.reads_sections (h : Document entries) (header : List String)
    (hnew : ∀ p ∈ entries, isSection p.2 = true → p.1 ∉ root.map (·.1)) :
    ∃ last nodes, Node.tomlEntries nodes = entries.filter (isSection ·.2) ∧
      Reads (sectionChars [] entries) (header, root) (last, root ++ nodes) := by
  induction entries generalizing header root with
  | nil => exact ⟨header, [], rfl, by rw [List.append_nil]; exact .nil _⟩
  | cons entry entries ih =>
    obtain ⟨name, v⟩ := entry
    obtain ⟨hbare, hbares⟩ := List.forall_mem_cons.1 h.bare
    obtain ⟨hkind, hkinds⟩ := List.forall_mem_cons.1 h.kind
    obtain ⟨hfresh, hfreshes⟩ := List.forall_mem_cons.1 hnew
    obtain ⟨hname, hnodup⟩ := List.nodup_cons.1 h.nodup
    rw [sectionChars]
    rcases hkind with hleaf | hsection
    · have hv : isSection v = false := hleaf.isSection
      rw [List.filter_cons_of_neg (by simp [hv]), hleaf.sectionOf]
      exact ih ⟨hnodup, hbares, hkinds⟩ header hfreshes
    · have hv : isSection v = true := hsection.isSection
      obtain ⟨node, hnode, hreads⟩ := hsection.reads hbare (hfresh hv) header
      have hlater : ∀ p ∈ entries, isSection p.2 = true → p.1 ∉ (root ++ [(name, node)]).map (·.1) := by
        intro p hp hs
        have hmem : p.1 ∈ entries.map (·.1) := List.mem_map_of_mem hp
        exact Node.not_mem_concat (hfreshes p hp hs) fun he => hname (he ▸ hmem)
      obtain ⟨last, nodes, hnodes, hrest⟩ := ih ⟨hnodup, hbares, hkinds⟩ [name] hlater
      refine ⟨last, (name, node) :: nodes, ?_, ?_⟩
      · rw [Node.tomlEntries, hnode, hnodes, List.filter_cons, if_pos hv]
      · rw [List.append_assoc] at hrest
        exact hreads.append hrest

theorem valueLines_filter (entries : List (String × Toml)) :
    valueLines entries = valueLines (entries.filter fun p => !isSection p.2) := by
  induction entries with
  | nil => rfl
  | cons entry entries ih =>
    obtain ⟨name, v⟩ := entry
    cases hv : isSection v <;> simp_all [valueLines]

/-- **A document is read back**, its values first and then its sections, each in their order. -/
theorem read?_render (h : Document entries) :
    read? (render entries) = some ((entries.filter fun p => !isSection p.2) ++ entries.filter (isSection ·.2)) := by
  have hvalues : Leaves (entries.filter fun p => !isSection p.2) := by
    refine ⟨h.nodup.sublist (List.filter_sublist.map _), fun p hp => h.bare p (List.mem_filter.1 hp).1,
      fun p hp => ?_⟩
    obtain ⟨hmem, hp⟩ := List.mem_filter.1 hp
    refine (h.kind p hmem).resolve_right fun hs => ?_
    rw [hs.isSection] at hp
    cases hp
  have hfirst : Reads (valueLines (entries.filter fun p => !isSection p.2)) ([], [])
      ([], settled (entries.filter fun p => !isSection p.2)) := hvalues.reads .top fun _ _ => List.not_mem_nil
  have hnew : ∀ p ∈ entries, isSection p.2 = true →
      p.1 ∉ (settled (entries.filter fun p => !isSection p.2)).map (·.1) := by
    intro p hp hs hname
    rw [settled, List.map_map] at hname
    obtain ⟨q, hq, hqp⟩ := List.mem_map.1 hname
    obtain ⟨hmem, hvalue⟩ := List.mem_filter.1 hq
    rw [List.inj_on_of_nodup_map h.nodup hmem hp hqp, hs] at hvalue
    cases hvalue
  obtain ⟨last, nodes, hnodes, hsections⟩ := h.reads_sections [] hnew
  rw [← valueLines_filter] at hfirst
  have hread := (hfirst.append hsections).read?
  rw [render, hread, Node.tomlEntries_append, tomlEntries_settled, hnodes]

end ProxyKeeper.Toml
