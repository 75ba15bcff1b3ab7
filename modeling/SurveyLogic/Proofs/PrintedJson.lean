import Mathlib.Tactic.SplitIfs
import SurveyLogic.Json.Decode
import SurveyLogic.Json.Printer

set_option autoImplicit false

namespace SurveyLogic.Json

inductive Escaped (c : Char) : Text → Prop
  | plain (noQuote : c ≠ '"') (noSlash : c ≠ '\\') (printable : Quoted.isControl c = false) : Escaped c [c]
  | escape (tail : Text) (read : ∀ rest, Quoted.escape (tail ++ rest) = .ok (c, rest))
      (passed : ∀ rest, Quoted.passEscape (tail ++ rest) = .ok rest) : Escaped c ('\\' :: tail)

theorem hex_digit_read : ∀ n < 16, Hex.digit? (Hex.digit n) = some n := by decide

theorem low_code_read {n : Nat} (low : n < 0x20) (rest : Text) :
    Quoted.hex4 (['0', '0', Hex.digit (n / 16), Hex.digit (n % 16)] ++ rest) = .ok (n, rest) := by
  have value : Hex.value? ['0', '0', Hex.digit (n / 16), Hex.digit (n % 16)] = some n := by
    have high := hex_digit_read (n / 16) (by omega)
    have unit := hex_digit_read (n % 16) (by omega)
    have zero : Hex.digit? '0' = some 0 := rfl
    simp [Hex.value?, zero, high, unit, Nat.div_add_mod]
  have bytes : ¬ Text.utf8Length ['0', '0', Hex.digit (n / 16), Hex.digit (n % 16)] < 4 := by
    have high := Char.utf8Size_pos (Hex.digit (n / 16))
    have unit := Char.utf8Size_pos (Hex.digit (n % 16))
    have zero : Char.utf8Size '0' = 1 := rfl
    simp only [Text.utf8Length, List.foldr_cons, List.foldr_nil, zero]
    omega
  have digits : (['0', '0', Hex.digit (n / 16), Hex.digit (n % 16)] ++ rest).take 4 =
      ['0', '0', Hex.digit (n / 16), Hex.digit (n % 16)] := rfl
  rw [Quoted.hex4, digits, if_neg bytes, value]
  rfl

theorem control_read {c : Char} (control : c.toNat < 0x20) (rest : Text) :
    Quoted.unicodeEscape (['0', '0', Hex.digit (c.toNat / 16), Hex.digit (c.toNat % 16)] ++ rest) =
      .ok (c, rest) := by
  have low : Quoted.isLowSurrogate c.toNat = false := by
    simp [Quoted.isLowSurrogate]
    omega
  have high : Quoted.isHighSurrogate c.toNat = false := by
    simp [Quoted.isHighSurrogate]
    omega
  rw [Quoted.unicodeEscape, low_code_read control]
  simp only [bind, Except.bind, low, high, Char.ofNat_toNat]
  rfl

theorem escape_char_escaped (c : Char) : Escaped c (escapeChar c) := by
  have code : ∀ n, c.toNat = n → c = Char.ofNat n := by
    rintro n rfl
    exact (Char.ofNat_toNat c).symm
  by_cases quote : c = '"'
  · cases quote
    exact .escape ['"'] (fun _ => rfl) fun _ => rfl
  by_cases slash : c = '\\'
  · cases slash
    exact .escape ['\\'] (fun _ => rfl) fun _ => rfl
  by_cases backspace : c.toNat = 8
  · cases code _ backspace
    exact .escape ['b'] (fun _ => rfl) fun _ => rfl
  by_cases tab : c.toNat = 9
  · cases code _ tab
    exact .escape ['t'] (fun _ => rfl) fun _ => rfl
  by_cases newline : c.toNat = 10
  · cases code _ newline
    exact .escape ['n'] (fun _ => rfl) fun _ => rfl
  by_cases feed : c.toNat = 12
  · cases code _ feed
    exact .escape ['f'] (fun _ => rfl) fun _ => rfl
  by_cases carriage : c.toNat = 13
  · cases code _ carriage
    exact .escape ['r'] (fun _ => rfl) fun _ => rfl
  rw [escapeChar, if_neg quote, if_neg slash, if_neg backspace, if_neg tab, if_neg newline, if_neg feed,
    if_neg carriage]
  by_cases control : c.toNat < 0x20
  · rw [if_pos control]
    refine .escape _ (fun rest => control_read control rest) fun rest => ?_
    exact congrArg (Except.map Prod.snd) (low_code_read control rest)
  · rw [if_neg control]
    exact .plain quote slash (by simpa [Quoted.isControl] using control)

theorem escaped_read (t rest : Text) (fuel : Nat) (enough : t.length < fuel) :
    Quoted.decode fuel (t.flatMap escapeChar ++ '"' :: rest) = .ok (t, rest) ∧
      Quoted.pass fuel (t.flatMap escapeChar ++ '"' :: rest) = .ok rest := by
  induction t generalizing fuel with
  | nil =>
      cases fuel with
      | zero => cases enough
      | succ fuel => exact ⟨rfl, rfl⟩
  | cons c t ih =>
      cases fuel with
      | zero => cases enough
      | succ fuel =>
          obtain ⟨decoded, passed⟩ := ih fuel (Nat.lt_of_succ_lt_succ enough)
          have spelled := escape_char_escaped c
          rw [List.flatMap_cons, List.append_assoc]
          generalize escapeChar c = spelling at spelled
          cases spelled with
          | plain noQuote noSlash printable =>
              simp [Quoted.decode, Quoted.pass, noQuote, noSlash, printable, decoded, passed, bind, Except.bind,
                pure, Except.pure]
          | escape tail read skipped =>
              simp [Quoted.decode, Quoted.pass, read, skipped, decoded, passed, bind, Except.bind, pure,
                Except.pure]

theorem escaped_inked {c : Char} {spelling : Text} (spelled : Escaped c spelling) : 1 ≤ spelling.length := by
  cases spelled <;> simp

theorem escaped_length (t : Text) : t.length ≤ (t.flatMap escapeChar).length := by
  induction t with
  | nil => exact Nat.le_refl 0
  | cons c t ih =>
      have inked := escaped_inked (escape_char_escaped c)
      rw [List.flatMap_cons, List.length_append, List.length_cons]
      omega

theorem escaped_scanned (t rest : Text) :
    Quoted.scan (t.flatMap escapeChar ++ '"' :: rest) = (.sound t, some rest) := by
  have enough : t.length < (t.flatMap escapeChar ++ '"' :: rest).length + 1 := by
    have longer := escaped_length t
    rw [List.length_append]
    omega
  obtain ⟨decoded, passed⟩ := escaped_read t rest _ enough
  rw [Quoted.scan, decoded, passed]
  rfl

inductive Plain : Json → Prop
  | text (t : Text) : Plain (.ofText t)
  | list (items : List Json) (each : ∀ item ∈ items, Plain item) : Plain (.ofList items)
  | record (members : List (Text × Json)) (each : ∀ m ∈ members, Plain m.2) : Plain (.ofMembers members)

-- A value that is read back wherever its text stands, if there is fuel for two steps a character.
structure ReadBack (j : Json) : Prop where
  starts : ∃ c tail, j.print = c :: tail ∧ isJsonBlank c = false ∧ c ≠ ']'
  read : ∀ fuel rest, 2 * j.print.length ≤ fuel → readValue fuel (j.print ++ rest) = (j, some rest)

theorem solid_unskipped {c : Char} (solid : isJsonBlank c = false) (t : Text) : skipBlanks (c :: t) = c :: t := by
  rw [skipBlanks, List.dropWhile_cons_of_neg (by simp [solid])]

theorem opened_read_back {j : Json} {c : Char} {body : Text} (printed : j.print = c :: body)
    (solid : isJsonBlank c = false) (noClose : c ≠ ']')
    (read : ∀ fuel rest, 2 * body.length < fuel → readValue (fuel + 1) (c :: (body ++ rest)) = (j, some rest)) :
    ReadBack j := by
  refine ⟨⟨c, body, printed, solid, noClose⟩, ?_⟩
  intro fuel rest enough
  rw [printed, List.length_cons] at enough
  rw [printed, List.cons_append]
  cases fuel with
  | zero => omega
  | succ fuel => exact read fuel rest (by omega)

theorem text_read_back (t : Text) : ReadBack (.ofText t) := by
  have printed : (Json.ofText t).print = '"' :: (t.flatMap escapeChar ++ ['"']) := rfl
  refine opened_read_back printed rfl (by decide) ?_
  intro fuel rest _
  rw [List.append_assoc, List.singleton_append, readValue, solid_unskipped rfl]
  simp only [escaped_scanned]
  rfl

theorem print_items_cons (item next : Json) (items : List Json) :
    printItems (item :: next :: items) = item.print ++ ',' :: printItems (next :: items) := by
  rw [printItems, List.append_assoc, List.singleton_append]
  nofun

section

variable {c : Char} {fuel : Nat} {first : Bool} {item : Json} {items : List Json} {tail rest after : Text}

theorem last_item (solid : isJsonBlank c = false) (noClose : c ≠ ']')
    (read : readValue fuel (c :: tail) = (item, some (']' :: rest))) :
    readItems (fuel + 1) first (c :: tail) = ([item], .closed, some rest) := by
  simp [readItems, solid_unskipped solid, read, solid_unskipped (show isJsonBlank ']' = false from rfl), noClose]

theorem next_item (solid : isJsonBlank c = false) (noClose : c ≠ ']')
    (read : readValue fuel (c :: tail) = (item, some (',' :: rest)))
    (later : readItems fuel false rest = (items, .closed, some after)) :
    readItems (fuel + 1) first (c :: tail) = (item :: items, .closed, some after) := by
  simp [readItems, solid_unskipped solid, read, solid_unskipped (show isJsonBlank ',' = false from rfl), noClose,
    later]

end

theorem items_read {items : List Json} (each : ∀ item ∈ items, ReadBack item) (first : Bool)
    (inked : first = true ∨ items ≠ []) (fuel : Nat) (rest : Text)
    (enough : 2 * (printItems items).length + 2 ≤ fuel) :
    readItems fuel first (printItems items ++ ']' :: rest) = (items, .closed, some rest) := by
  induction items generalizing fuel first with
  | nil =>
      cases fuel with
      | zero => omega
      | succ fuel =>
          have only : first = true := by simpa using inked
          rw [printItems, List.nil_append, readItems, solid_unskipped rfl]
          simp [only]
  | cons item items ih =>
      obtain ⟨⟨c, tail, printed, solid, noClose⟩, read⟩ := each item List.mem_cons_self
      have later := ih (fun other mem => each other (List.mem_cons_of_mem item mem)) false
      cases fuel with
      | zero => omega
      | succ fuel =>
          cases items with
          | nil =>
              rw [printItems] at enough ⊢
              have here := read fuel (']' :: rest) (by omega)
              rw [printed, List.cons_append] at here ⊢
              exact last_item solid noClose here
          | cons next items =>
              rw [print_items_cons, List.length_append, List.length_cons] at enough
              rw [print_items_cons, List.append_assoc, List.cons_append]
              have here := read fuel (',' :: (printItems (next :: items) ++ ']' :: rest)) (by omega)
              rw [printed, List.cons_append] at here ⊢
              exact next_item solid noClose here (later (.inr (by simp)) fuel (by omega))

def soundMember (m : Text × Json) : Scalar Text × Json := (.sound m.1, m.2)

theorem print_member (m : Text × Json) (rest : Text) : printMembers [soundMember m] ++ rest =
    '"' :: (m.1.flatMap escapeChar ++ '"' :: ':' :: (m.2.print ++ rest)) := by
  simp [soundMember, printMembers, printString, Scalar.sound, quoteText]

theorem print_members_cons (m next : Text × Json) (members : List (Text × Json)) :
    printMembers ((m :: next :: members).map soundMember) =
      printMembers [soundMember m] ++ ',' :: printMembers ((next :: members).map soundMember) := by
  simp [soundMember, printMembers]

section

variable {fuel : Nat} {first : Bool} {m : Text × Json} {members : List (Scalar Text × Json)}
  {tail rest after : Text}

theorem last_member (read : readValue fuel tail = (m.2, some ('}' :: rest))) :
    readMembers (fuel + 1) first ('"' :: (m.1.flatMap escapeChar ++ '"' :: ':' :: tail)) =
      ([soundMember m], .closed, some rest) := by
  simp [readMembers, solid_unskipped (show isJsonBlank '"' = false from rfl), escaped_scanned, afterColon,
    solid_unskipped (show isJsonBlank ':' = false from rfl), read,
    solid_unskipped (show isJsonBlank '}' = false from rfl), soundMember]

theorem next_member (read : readValue fuel tail = (m.2, some (',' :: rest)))
    (later : readMembers fuel false rest = (members, .closed, some after)) :
    readMembers (fuel + 1) first ('"' :: (m.1.flatMap escapeChar ++ '"' :: ':' :: tail)) =
      (soundMember m :: members, .closed, some after) := by
  simp [readMembers, solid_unskipped (show isJsonBlank '"' = false from rfl), escaped_scanned, afterColon,
    solid_unskipped (show isJsonBlank ':' = false from rfl), read,
    solid_unskipped (show isJsonBlank ',' = false from rfl), later, soundMember]

end

theorem members_read {members : List (Text × Json)} (each : ∀ m ∈ members, ReadBack m.2) (first : Bool)
    (inked : first = true ∨ members ≠ []) (fuel : Nat) (rest : Text)
    (enough : 2 * (printMembers (members.map soundMember)).length + 2 ≤ fuel) :
    readMembers fuel first (printMembers (members.map soundMember) ++ '}' :: rest) =
      (members.map soundMember, .closed, some rest) := by
  induction members generalizing fuel first with
  | nil =>
      cases fuel with
      | zero => omega
      | succ fuel =>
          have only : first = true := by simpa using inked
          rw [List.map_nil, printMembers, List.nil_append, readMembers, solid_unskipped rfl]
          simp [only]
  | cons m members ih =>
      have read := (each m List.mem_cons_self).read
      have later := ih (fun other mem => each other (List.mem_cons_of_mem m mem)) false
      have alone := congrArg List.length (print_member m [])
      simp only [List.append_nil, List.length_cons, List.length_append] at alone
      cases fuel with
      | zero => omega
      | succ fuel =>
          cases members with
          | nil =>
              rw [List.map_singleton] at enough ⊢
              rw [print_member]
              exact last_member (read fuel _ (by omega))
          | cons next members =>
              rw [print_members_cons, List.length_append, List.length_cons] at enough
              rw [print_members_cons, List.append_assoc, List.cons_append, print_member]
              exact next_member (read fuel _ (by omega)) (later (.inr (by simp)) fuel (by omega))

theorem list_read_back {items : List Json} (each : ∀ item ∈ items, ReadBack item) : ReadBack (.ofList items) := by
  have printed : (Json.ofList items).print = '[' :: (printItems items ++ [']']) := rfl
  refine opened_read_back printed rfl (by decide) ?_
  intro fuel rest enough
  rw [List.length_append, List.length_singleton] at enough
  rw [List.append_assoc, List.singleton_append, readValue, solid_unskipped rfl]
  simp only [items_read each true (.inl rfl) fuel rest (by omega)]
  rfl

theorem record_read_back {members : List (Text × Json)} (each : ∀ m ∈ members, ReadBack m.2) :
    ReadBack (.ofMembers members) := by
  have printed : (Json.ofMembers members).print = '{' :: (printMembers (members.map soundMember) ++ ['}']) := rfl
  refine opened_read_back printed rfl (by decide) ?_
  intro fuel rest enough
  rw [List.length_append, List.length_singleton] at enough
  rw [List.append_assoc, List.singleton_append, readValue, solid_unskipped rfl]
  simp only [members_read each true (.inl rfl) fuel rest (by omega)]
  rfl

theorem plain_read_back {j : Json} (plain : Plain j) : ReadBack j := by
  induction plain with
  | text t => exact text_read_back t
  | list _ _ each => exact list_read_back each
  | record _ _ each => exact record_read_back each

theorem printed_document {j : Json} (plain : Plain j) : Document.ofText j.print = ⟨j, false⟩ := by
  have read := (plain_read_back plain).read (2 * j.print.length + 2) [] (by omega)
  rw [List.append_nil] at read
  rw [Document.ofText, read]
  rfl

theorem document_decoded {α : Type} {decode : Decoder α} {t : Text} {j : Json}
    (document : Document.ofText t = ⟨j, false⟩) : decodeText decode t = decode j := by
  rw [decodeText, document]
  cases decode j <;> rfl

end SurveyLogic.Json
