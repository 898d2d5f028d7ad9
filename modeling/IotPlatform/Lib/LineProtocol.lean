import Mathlib.Data.List.Infix

/-!
# The line protocol

A record is a line of text: a measurement, tags after commas, a space, the fields, and perhaps a space and a timestamp. A
backslash takes from certain bytes their meaning as separators; which bytes it may precede so is the rule's choice, but
comma and space are among them.
-/

namespace IotPlatform.LineProtocol

def comma : UInt8 := 0x2C

def space : UInt8 := 0x20

def equals : UInt8 := 0x3D

def newline : UInt8 := 0x0A

def backslash : UInt8 := 0x5C

structure EscapeRule where
  escapes : UInt8 → Bool
  comma_escapes : escapes comma = true
  space_escapes : escapes space = true

/-- The bytes that end a tag value. -/
def special (byte : UInt8) : Bool := byte == comma || byte == space

def escape (value : List UInt8) : List UInt8 := value.flatMap fun byte => if special byte then [backslash, byte] else [byte]

theorem EscapeRule.escapes_special (rule : EscapeRule) {byte : UInt8} (isSpecial : special byte = true) :
    rule.escapes byte = true := by
  rw [special, Bool.or_eq_true, beq_iff_eq, beq_iff_eq] at isSpecial
  rcases isSpecial with rfl | rfl
  · exact rule.comma_escapes
  · exact rule.space_escapes

section Scan

variable (rule : EscapeRule) (stop : UInt8 → Bool)

def push (byte : UInt8) (scanned : List UInt8 × List UInt8) : List UInt8 × List UInt8 := (byte :: scanned.1, scanned.2)

/-- The text before the first stop that no backslash precedes, its escapes resolved, and the rest. -/
def scan : List UInt8 → List UInt8 × List UInt8
  | [] => ([], [])
  | [byte] => if stop byte then ([], [byte]) else ([byte], [])
  | byte :: next :: tail =>
    if byte == backslash && rule.escapes next then push next (scan tail)
    else if stop byte then ([], byte :: next :: tail)
    else push byte (scan (next :: tail))

variable {rule stop} {byte : UInt8} {rest : List UInt8}

theorem scan_stop (stops : stop byte = true) (plain : byte ≠ backslash) : scan rule stop (byte :: rest) = ([], byte :: rest) := by
  cases rest with
  | nil => rw [scan, if_pos stops]
  | cons next tail => simp [scan, plain, stops]

theorem scan_plain (goes : stop byte = false) (plain : byte ≠ backslash) :
    scan rule stop (byte :: rest) = push byte (scan rule stop rest) := by
  cases rest with
  | nil => simp [scan, goes, push]
  | cons next tail => simp [scan, plain, goes]

theorem scan_escaped {next : UInt8} (escaped : rule.escapes next = true) :
    scan rule stop (backslash :: next :: rest) = push next (scan rule stop rest) := by
  simp [scan, escaped]

theorem scan_literal {next : UInt8} (goes : stop backslash = false) (literal : rule.escapes next = false) :
    scan rule stop (backslash :: next :: rest) = push backslash (scan rule stop (next :: rest)) := by
  simp [scan, goes, literal]

theorem scan_append {text : List UInt8} (goes : ∀ byte ∈ text, stop byte = false ∧ byte ≠ backslash)
    (stops : stop byte = true) (plain : byte ≠ backslash) :
    scan rule stop (text ++ byte :: rest) = (text, byte :: rest) := by
  induction text with
  | nil => exact scan_stop stops plain
  | cons first tail ih =>
    obtain ⟨here, later⟩ := List.forall_mem_cons.mp goes
    rw [List.cons_append, scan_plain here.1 here.2, ih later]
    rfl

end Scan

/-! ### Tag values -/

section Values

variable (rule : EscapeRule)

/-- Whether a backslash before `rest` stands for itself, in an escaped value with a separator behind it. -/
def standsAlone : List UInt8 → Bool
  | [] => false
  | next :: _ => if special next then !rule.escapes backslash else !rule.escapes next

/-- Every backslash of the value stands for itself. -/
def plainValue : List UInt8 → Bool
  | [] => true
  | byte :: rest => (byte != backslash || standsAlone rule rest) && plainValue rest

variable {rule} {sep : UInt8} {rest : List UInt8}

theorem escape_cons_special {byte : UInt8} (isSpecial : special byte = true) (value : List UInt8) :
    escape (byte :: value) = backslash :: byte :: escape value := by
  rw [escape, List.flatMap_cons, if_pos isSpecial]
  rfl

theorem escape_cons_other {byte : UInt8} (other : special byte = false) (value : List UInt8) :
    escape (byte :: value) = byte :: escape value := by
  rw [escape, List.flatMap_cons, if_neg (by rw [other]; exact Bool.false_ne_true)]
  rfl

theorem special_ne_backslash {byte : UInt8} (isSpecial : special byte = true) : byte ≠ backslash := by
  rintro rfl
  revert isSpecial
  decide

theorem special_backslash : special backslash = false := by decide

/-- What follows a backslash in an escaped value. -/
theorem escape_head (rule : EscapeRule) (separates : special sep = true) (value rest : List UInt8) :
    ∃ head more, escape value ++ sep :: rest = head :: more ∧ (standsAlone rule value = true ↔ rule.escapes head = false) := by
  cases value with
  | nil => exact ⟨sep, rest, rfl, by simp [standsAlone, rule.escapes_special separates]⟩
  | cons next tail =>
    cases isSpecial : special next with
    | true =>
      rw [escape_cons_special isSpecial]
      exact ⟨backslash, _, rfl, by simp [standsAlone, isSpecial]⟩
    | false =>
      rw [escape_cons_other isSpecial]
      exact ⟨next, _, rfl, by simp [standsAlone, isSpecial]⟩

theorem scan_escape_special {byte : UInt8} (isSpecial : special byte = true) (value : List UInt8) :
    scan rule special (escape (byte :: value) ++ sep :: rest) =
      push byte (scan rule special (escape value ++ sep :: rest)) := by
  rw [escape_cons_special isSpecial, List.cons_append, List.cons_append, scan_escaped (rule.escapes_special isSpecial)]

theorem scan_escape_other {byte : UInt8} (isSpecial : special byte = false) (plain : byte ≠ backslash) (value : List UInt8) :
    scan rule special (escape (byte :: value) ++ sep :: rest) =
      push byte (scan rule special (escape value ++ sep :: rest)) := by
  rw [escape_cons_other isSpecial, List.cons_append, scan_plain isSpecial plain]

theorem scan_escape_alone (separates : special sep = true) {value : List UInt8} (alone : standsAlone rule value = true) :
    scan rule special (escape (backslash :: value) ++ sep :: rest) =
      push backslash (scan rule special (escape value ++ sep :: rest)) := by
  obtain ⟨head, more, encoded, alone_iff⟩ := escape_head rule separates value rest
  rw [escape_cons_other special_backslash, List.cons_append, encoded, scan_literal special_backslash (alone_iff.mp alone)]

/-- A value whose backslashes stand for themselves is read back. -/
theorem scan_escape (separates : special sep = true) {value : List UInt8} (plain : plainValue rule value = true) :
    scan rule special (escape value ++ sep :: rest) = (value, sep :: rest) := by
  induction value with
  | nil => exact scan_stop separates (special_ne_backslash separates)
  | cons byte tail ih =>
    rw [plainValue, Bool.and_eq_true, Bool.or_eq_true, bne_iff_ne] at plain
    have read := ih plain.2
    cases isSpecial : special byte with
    | true =>
      rw [scan_escape_special isSpecial, read]
      rfl
    | false =>
      by_cases slash : byte = backslash
      · subst slash
        rw [scan_escape_alone separates (plain.1.resolve_left fun other => other rfl), read]
        rfl
      · rw [scan_escape_other isSpecial slash, read]
        rfl

/-- A backslash that does not stand for itself takes the separator behind the value, is taken for the escape of the
backslash that the next byte was given, or disappears before a byte that it escapes. -/
theorem scan_escape_taken (separates : special sep = true) {value : List UInt8} (taken : standsAlone rule value = false) :
    (∃ more, (scan rule special (escape (backslash :: value) ++ sep :: rest)).1 = sep :: more) ∨
      (value ≠ [] ∧ (scan rule special (escape (backslash :: value) ++ sep :: rest)).1 = [backslash]) ∨
      ∃ next tail, value = next :: tail ∧ rule.escapes next = true ∧
        scan rule special (escape (backslash :: value) ++ sep :: rest) =
          push next (scan rule special (escape tail ++ sep :: rest)) := by
  rw [escape_cons_other special_backslash, List.cons_append]
  cases value with
  | nil =>
    rw [show escape [] = [] from rfl, List.nil_append, scan_escaped (rule.escapes_special separates)]
    exact .inl ⟨_, rfl⟩
  | cons next tail =>
    rw [standsAlone] at taken
    cases nextSpecial : special next with
    | true =>
      have pairs : rule.escapes backslash = true := by simpa [nextSpecial] using taken
      rw [escape_cons_special nextSpecial, List.cons_append, List.cons_append, scan_escaped pairs,
        scan_stop nextSpecial (special_ne_backslash nextSpecial)]
      exact .inr (.inl ⟨List.cons_ne_nil _ _, rfl⟩)
    | false =>
      have escapes : rule.escapes next = true := by simpa [nextSpecial] using taken
      rw [escape_cons_other nextSpecial, List.cons_append, scan_escaped escapes]
      exact .inr (.inr ⟨next, tail, rfl, escapes, rfl⟩)

/-- Where backslashes escape each other, a value is never read back with more backslashes in front. -/
theorem scan_escape_ne_replicate (separates : special sep = true) (pairs : rule.escapes backslash = true) :
    ∀ (value : List UInt8) (k : Nat) (more : List UInt8),
      (scan rule special (escape value ++ sep :: rest)).1 ≠ List.replicate (k + 1) backslash ++ value ++ more
  | [], k, more => by
    rw [show escape [] = [] from rfl, List.nil_append, scan_stop separates (special_ne_backslash separates)]
    simp [List.replicate_succ]
  | byte :: tail, k, more => by
    intro read
    rw [List.replicate_succ, List.cons_append, List.cons_append] at read
    cases isSpecial : special byte with
    | true =>
      rw [scan_escape_special isSpecial] at read
      exact special_ne_backslash isSpecial (List.cons.inj read).1
    | false =>
      by_cases slash : byte = backslash
      · subst slash
        cases alone : standsAlone rule tail with
        | true =>
          -- what follows is no backslash, as a backslash would have been escaped
          obtain ⟨next, tail, rfl⟩ := List.exists_cons_of_ne_nil (l := tail) (by rintro rfl; cases alone)
          rw [standsAlone, pairs, Bool.not_true, Bool.if_false_left, Bool.and_eq_true, Bool.not_eq_true',
            Bool.not_eq_true'] at alone
          have other : next ≠ backslash := by
            rintro rfl
            rw [pairs] at alone
            exact absurd alone.2 (by decide)
          have again : standsAlone rule (next :: tail) = true := by simp [standsAlone, alone]
          rw [scan_escape_alone separates again, scan_escape_other (by simpa using alone.1) other] at read
          have second := (List.cons.inj read).2
          cases k <;> exact other (List.cons.inj second).1
        | false =>
          rcases scan_escape_taken separates alone with ⟨_, sepFirst⟩ | ⟨nonempty, single⟩ | ⟨next, tail, rfl, escapes, skips⟩
          · rw [sepFirst] at read
            exact special_ne_backslash separates (List.cons.inj read).1
          · rw [single] at read
            have none_left := (List.cons.inj read).2
            simp at none_left
          · rw [skips] at read
            obtain ⟨same, later⟩ := List.cons.inj read
            subst same
            refine scan_escape_ne_replicate separates pairs tail (k + 1) more ?_
            refine later.trans ?_
            simp only [List.replicate_succ', List.append_assoc, List.cons_append, List.nil_append]
      · rw [scan_escape_other isSpecial slash] at read
        exact slash (List.cons.inj read).1

/-- A value that is read back, or read back as a prefix of what is expected, had no other backslashes. -/
theorem plainValue_of_scan (separates : special sep = true) {value : List UInt8} (more : List UInt8)
    (read : (scan rule special (escape value ++ sep :: rest)).1 = value ++ more) : plainValue rule value = true ∧ more = [] := by
  induction value with
  | nil =>
    rw [show escape [] = [] from rfl, List.nil_append, scan_stop separates (special_ne_backslash separates)] at read
    exact ⟨rfl, read.symm⟩
  | cons byte tail ih =>
    rw [plainValue, Bool.and_eq_true, Bool.or_eq_true, bne_iff_ne]
    cases isSpecial : special byte with
    | true =>
      rw [scan_escape_special isSpecial] at read
      obtain ⟨plain, empty⟩ := ih (List.cons.inj read).2
      exact ⟨⟨.inl (special_ne_backslash isSpecial), plain⟩, empty⟩
    | false =>
      by_cases slash : byte = backslash
      · subst slash
        cases alone : standsAlone rule tail with
        | true =>
          rw [scan_escape_alone separates alone] at read
          obtain ⟨plain, empty⟩ := ih (List.cons.inj read).2
          exact ⟨⟨.inr rfl, plain⟩, empty⟩
        | false =>
          -- the backslash was taken for an escape
          exfalso
          rcases scan_escape_taken separates alone with ⟨_, sepFirst⟩ | ⟨nonempty, single⟩ | ⟨next, tail, rfl, escapes, skips⟩
          · rw [sepFirst] at read
            exact special_ne_backslash separates (List.cons.inj read).1
          · rw [single] at read
            exact nonempty (List.append_eq_nil_iff.mp (List.cons.inj read).2.symm).1
          · rw [skips] at read
            obtain ⟨same, later⟩ := List.cons.inj read
            subst same
            exact scan_escape_ne_replicate separates escapes tail 0 more later
      · rw [scan_escape_other isSpecial slash] at read
        obtain ⟨plain, empty⟩ := ih (List.cons.inj read).2
        exact ⟨⟨.inl slash, plain⟩, empty⟩

end Values

/-! ### Records -/

abbrev TagPair := List UInt8 × List UInt8

structure LineRecord where
  measurement : List UInt8
  tags : List TagPair
  fields : List UInt8
  timestamp : Option (List UInt8)
  deriving DecidableEq

section Records

variable (rule : EscapeRule)

/-- The tags at the front of a text, and the rest; the first `=` of a tag ends its key. -/
def parseTags : Nat → List UInt8 → Option (List TagPair × List UInt8)
  | 0, _ => none
  | _ + 1, [] => some ([], [])
  | fuel + 1, byte :: rest =>
    if byte = comma then
      match scan rule (fun byte => special byte || byte == equals) rest with
      | (_, []) => none
      | (key, sep :: rest) =>
        if sep = equals then
          let (value, rest) := scan rule special rest
          match parseTags fuel rest with
          | none => none
          | some (tags, rest) => some ((key, value) :: tags, rest)
        else none
    else some ([], byte :: rest)

/-- A line has no newline and no terminator in it. -/
def parseLine (line : List UInt8) : Option LineRecord :=
  if newline ∈ line ∨ 0 ∈ line then none
  else
    let (measurement, rest) := scan rule special line
    match parseTags rule (line.length + 1) rest with
    | some (tags, sep :: rest) =>
      if sep = space then
        let (fields, rest) := scan rule (· == space) rest
        some { measurement := measurement, tags := tags, fields := fields
               timestamp := if rest = [] then none else some rest.tail }
      else none
    | _ => none

def printTag (tag : TagPair) : List UInt8 := comma :: tag.1 ++ equals :: escape tag.2

def printTags (tags : List TagPair) : List UInt8 := tags.flatMap printTag

/-- Neither a separator nor a backslash. -/
def PlainName (name : List UInt8) : Prop :=
  ∀ byte ∈ name, (special byte || byte == equals) = false ∧ byte ≠ backslash

instance (name : List UInt8) : Decidable (PlainName name) :=
  List.decidableBAll (fun byte => (special byte || byte == equals) = false ∧ byte ≠ backslash) name

variable {rule} {printed expected : List TagPair} {rest : List UInt8}

theorem printTags_cons (tag : TagPair) (tags : List TagPair) (rest : List UInt8) :
    printTags (tag :: tags) ++ rest = comma :: (tag.1 ++ equals :: (escape tag.2 ++ (printTags tags ++ rest))) := by
  simp only [printTags, printTag, List.flatMap_cons, List.cons_append, List.append_assoc]

theorem mem_escape_of_mem {value : List UInt8} {byte : UInt8} (member : byte ∈ value) : byte ∈ escape value := by
  refine List.mem_flatMap.mpr ⟨byte, member, ?_⟩
  split
  · exact List.mem_cons_of_mem _ (List.mem_singleton_self _)
  · exact List.mem_singleton_self _

theorem mem_of_mem_escape {value : List UInt8} {byte : UInt8} (member : byte ∈ escape value) :
    byte = backslash ∨ byte ∈ value := by
  obtain ⟨source, inside, image⟩ := List.mem_flatMap.mp member
  split at image
  · rcases List.mem_cons.mp image with slash | same
    · exact .inl slash
    · exact .inr (List.mem_singleton.mp same ▸ inside)
  · exact .inr (List.mem_singleton.mp image ▸ inside)

theorem mem_printTags_of_value {tags : List TagPair} {tag : TagPair} {byte : UInt8} (member : tag ∈ tags)
    (inside : byte ∈ tag.2) : byte ∈ printTags tags :=
  List.mem_flatMap.mpr ⟨tag, member, List.mem_append_right _ (List.mem_cons_of_mem _ (mem_escape_of_mem inside))⟩

theorem mem_printTags {tags : List TagPair} {byte : UInt8} (member : byte ∈ printTags tags) :
    byte ∈ [comma, equals, backslash] ∨ ∃ tag ∈ tags, byte ∈ tag.1 ∨ byte ∈ tag.2 := by
  obtain ⟨tag, inside, printed⟩ := List.mem_flatMap.mp member
  rw [printTag, List.mem_append, List.mem_cons, List.mem_cons] at printed
  rcases printed with (isComma | name) | isEquals | value
  · exact .inl (by simp [isComma])
  · exact .inr ⟨tag, inside, .inl name⟩
  · exact .inl (by simp [isEquals])
  · rcases mem_of_mem_escape value with slash | value
    · exact .inl (by simp [slash])
    · exact .inr ⟨tag, inside, .inr value⟩

theorem length_le_printTags (tags : List TagPair) : tags.length ≤ (printTags tags).length := by
  induction tags with
  | nil => exact Nat.zero_le _
  | cons tag tags ih =>
    rw [show printTags (tag :: tags) = printTag tag ++ printTags tags from rfl, List.length_append, printTag,
      List.length_append, List.length_cons, List.length_cons]
    omega

/-- What follows a tag value begins with a separator. -/
theorem printTags_head (tags : List TagPair) (rest : List UInt8) :
    ∃ sep more, printTags tags ++ space :: rest = sep :: more ∧ special sep = true := by
  cases tags with
  | nil => exact ⟨space, rest, rfl, by decide⟩
  | cons tag tags =>
    rw [printTags_cons]
    exact ⟨comma, _, rfl, by decide⟩

theorem parseTags_cons {fuel : Nat} {tag : TagPair} (name : PlainName tag.1) (text : List UInt8) :
    parseTags rule (fuel + 1) (comma :: (tag.1 ++ equals :: text)) =
      match parseTags rule fuel (scan rule special text).2 with
      | none => none
      | some (tags, rest) => some ((tag.1, (scan rule special text).1) :: tags, rest) := by
  rw [parseTags, if_pos rfl, scan_append name (by decide) (by decide)]
  dsimp only
  rw [if_pos rfl]

theorem parseTags_printTags (names : ∀ tag ∈ printed, PlainName tag.1)
    (plain : ∀ tag ∈ printed, plainValue rule tag.2 = true) {fuel : Nat} (enough : printed.length < fuel) :
    parseTags rule fuel (printTags printed ++ space :: rest) = some (printed, space :: rest) := by
  induction printed generalizing fuel with
  | nil =>
    obtain ⟨fuel, rfl⟩ := Nat.exists_eq_add_one_of_ne_zero (Nat.ne_zero_of_lt enough)
    rw [show printTags [] = [] from rfl, List.nil_append, parseTags, if_neg (by decide)]
  | cons tag tags ih =>
    obtain ⟨fuel, rfl⟩ := Nat.exists_eq_add_one_of_ne_zero (Nat.ne_zero_of_lt enough)
    obtain ⟨name, names⟩ := List.forall_mem_cons.mp names
    obtain ⟨value, plain⟩ := List.forall_mem_cons.mp plain
    obtain ⟨sep, more, next, separates⟩ := printTags_head tags rest
    rw [printTags_cons, parseTags_cons name, next, scan_escape separates value, ← next,
      ih names plain (Nat.lt_of_succ_lt_succ enough)]

/-- Tags that are read back as what was expected, of which no more than what was expected was printed, are those expected,
and every backslash in them stands for itself. -/
theorem plain_of_parseTags (names : ∀ tag ∈ printed, PlainName tag.1)
    (cut : List.Forall₂ (fun tag whole => tag.1 = whole.1 ∧ tag.2 <+: whole.2) printed expected) {fuel : Nat}
    {left : List UInt8} (parsed : parseTags rule fuel (printTags printed ++ space :: rest) = some (expected, left)) :
    printed = expected ∧ ∀ tag ∈ printed, plainValue rule tag.2 = true := by
  induction cut generalizing fuel left with
  | nil => exact ⟨rfl, by simp⟩
  | @cons tag whole tags wholes here later ih =>
    obtain ⟨name, names⟩ := List.forall_mem_cons.mp names
    obtain ⟨sep, more, next, separates⟩ := printTags_head tags rest
    cases fuel with
    | zero => cases parsed
    | succ fuel =>
      rw [printTags_cons, parseTags_cons name, next] at parsed
      split at parsed
      · cases parsed
      · rename_i found left' inner
        obtain ⟨same, -⟩ := Prod.mk.inj (Option.some.inj parsed)
        obtain ⟨head, tail⟩ := List.cons.inj same
        obtain ⟨beyond, value⟩ := here.2
        have read : (scan rule special (escape tag.2 ++ sep :: more)).1 = tag.2 ++ beyond := by
          rw [value]
          exact congrArg Prod.snd head
        obtain ⟨plain, rfl⟩ := plainValue_of_scan separates beyond read
        rw [scan_escape separates plain, ← next, tail] at inner
        obtain ⟨rfl, plains⟩ := ih names inner
        refine ⟨?_, List.forall_mem_cons.mpr ⟨plain, plains⟩⟩
        rw [← head, scan_escape separates plain]

theorem parseLine_some {line : List UInt8} {record : LineRecord} (parsed : parseLine rule line = some record) :
    newline ∉ line ∧ 0 ∉ line ∧
      ∃ left, parseTags rule (line.length + 1) (scan rule special line).2 = some (record.tags, left) := by
  unfold parseLine at parsed
  split at parsed
  · cases parsed
  · rename_i clean
    rw [not_or] at clean
    dsimp only at parsed
    split at parsed
    · rename_i tags sep rest found
      split at parsed
      · obtain rfl := Option.some.inj parsed
        exact ⟨clean.1, clean.2, _, found⟩
      · cases parsed
    · cases parsed

/-- A printed line, some of its values perhaps cut, reads as the expected tags exactly when it has no newline and no
terminator in it, no value was cut, and every backslash of a value stands for itself. -/
theorem parseLine_printed {measurement : List UInt8} (name : PlainName measurement)
    (names : ∀ tag ∈ printed, PlainName tag.1)
    (cut : List.Forall₂ (fun tag whole => tag.1 = whole.1 ∧ tag.2 <+: whole.2) printed expected) :
    (∃ record, parseLine rule (measurement ++ (printTags printed ++ space :: rest)) = some record ∧ record.tags = expected) ↔
      (newline ∉ measurement ++ (printTags printed ++ space :: rest) ∧
        0 ∉ measurement ++ (printTags printed ++ space :: rest)) ∧
        printed = expected ∧ ∀ tag ∈ printed, plainValue rule tag.2 = true := by
  obtain ⟨sep, more, next, separates⟩ := printTags_head printed rest
  have front : scan rule special (measurement ++ (printTags printed ++ space :: rest)) =
      (measurement, printTags printed ++ space :: rest) := by
    rw [next]
    refine scan_append (fun byte member => ?_) separates (special_ne_backslash separates)
    obtain ⟨ordinary, other⟩ := name byte member
    exact ⟨(Bool.or_eq_false_iff.mp ordinary).1, other⟩
  constructor
  · rintro ⟨record, parsed, rfl⟩
    obtain ⟨noNewline, noZero, left, tags⟩ := parseLine_some parsed
    rw [front] at tags
    exact ⟨⟨noNewline, noZero⟩, plain_of_parseTags names cut tags⟩
  · rintro ⟨⟨noNewline, noZero⟩, rfl, plain⟩
    have enough : printed.length < (measurement ++ (printTags printed ++ space :: rest)).length + 1 := by
      have each := length_le_printTags printed
      rw [List.length_append, List.length_append]
      omega
    rw [parseLine, if_neg (not_or.mpr ⟨noNewline, noZero⟩), front]
    dsimp only
    rw [parseTags_printTags names plain enough]
    dsimp only
    rw [if_pos rfl]
    exact ⟨_, rfl, rfl⟩

end Records

end IotPlatform.LineProtocol
