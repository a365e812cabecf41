import SamlAdmin.Json.Printer
import SamlAdmin.Json.Reader

/-!
# Reading back what was written

A value made of texts, flags, nulls, lists and objects with distinct names is read back
from its compact JSON text.  Each part is read with whatever text follows it, and the
fuel of a reader is enough as long as it is not smaller than the text of the part.
-/

namespace SamlAdmin.Json

-- the equations of the readers are what the proofs below go by
attribute [local simp] readValue readItems readMembers

/-! ## Strings -/

theorem fourHex?_ofHex {number : Nat} (small : number < 32) (next : CodePoint) (rest : Text) :
    fourHex? (Text.ofHex 4 number ++ next :: rest) = some (number, next :: rest) := by
  have lengths : ∀ number : Fin 32, (Text.ofHex 4 number.val).length = 4 := by decide
  have values : ∀ number : Fin 32, (Text.ofHex 4 number.val).map CodePoint.hexValue? =
      [some 0, some 0, some (number.val / 16), some (number.val % 16)] := by decide
  have long := lengths ⟨number, small⟩
  have digits := values ⟨number, small⟩
  simp only at long digits
  generalize Text.ofHex 4 number = text at long digits
  match text with
  | [first, second, third, fourth] =>
      simp only [List.map_cons, List.map_nil, List.cons.injEq, and_true] at digits
      obtain ⟨isFirst, isSecond, isThird, isFourth⟩ := digits
      have whole : 4096 * 0 + 256 * 0 + 16 * (number / 16) + number % 16 = number := by omega
      simp only [List.cons_append, List.nil_append, fourHex?, isFirst, isSecond, isThird,
        isFourth, whole]

theorem readEscape_control {value : Char} (control : value.toNat < 32) (opening : Nat)
    (next : CodePoint) (rest : Text) :
    readEscape opening (("\\u" : Text) ++ Text.ofHex 4 value.toNat ++ next :: rest) =
      .ok (.char value, next :: rest) := by
  have begun : ("\\u" : Text) ++ Text.ofHex 4 value.toNat ++ next :: rest =
      .char '\\' :: .char 'u' :: (Text.ofHex 4 value.toNat ++ next :: rest) := rfl
  have noHalf : ¬(0xD800 ≤ value.toNat ∧ value.toNat < 0xDC00 ∧ 6 < (next :: rest).length) := by
    omega
  have low : value.toNat < 0xD800 := by omega
  have point : CodePoint.ofNat? value.toNat = some (.char value) := by
    rw [CodePoint.ofNat?, if_pos low, Char.ofNat_toNat]
  rw [begun, readEscape, fourHex?_ofHex control]
  simp only [numbered, if_neg noHalf, point, Option.getD_some]

/-- What a reader of strings makes of one code point in front of the rest. -/
def readOn (opening fuel : Nat) (point : CodePoint) (rest : Text) : Step Text :=
  match readString opening fuel rest with
  | .error stop => .error stop
  | .ok (points, after) => .ok (point :: points, after)

theorem readString_escapePoint (opening fuel : Nat) (point next : CodePoint) (rest : Text) :
    readString opening (fuel + 1) (escapePoint point ++ next :: rest) =
      readOn opening fuel point (next :: rest) := by
  unfold escapePoint
  split
  case h_8 noQuote noBackslash _ _ _ _ _ =>
    by_cases control : point.toNat < 0x20
    · rw [if_pos control]
      cases point with
      | char value =>
          have read := readEscape_control control opening next rest
          have begun : ("\\u" : Text) ++ Text.ofHex 4 value.toNat ++ next :: rest =
              .char '\\' :: (.char 'u' :: (Text.ofHex 4 value.toNat ++ next :: rest)) := rfl
          rw [begun] at read
          rw [CodePoint.toNat, begun, readString, read]
          rfl
      | surrogate offset =>
          rw [CodePoint.toNat] at control
          omega
    · rw [if_neg control, List.singleton_append, readString, if_neg control]
      · rfl
      · exact noQuote
      · exact noBackslash
  all_goals rfl

/-- A string is read from its escapes up to the closing quote. -/
theorem readString_escaped (opening : Nat) {fuel : Nat} {string : Text}
    (enough : string.length < fuel) (rest : Text) :
    readString opening fuel (string.flatMap escapePoint ++ .char '"' :: rest) =
      .ok (string, rest) := by
  induction string generalizing fuel with
  | nil =>
      cases fuel with
      | zero => cases enough
      | succ fuel => rfl
  | cons point others ih =>
      cases fuel with
      | zero => cases enough
      | succ fuel =>
          have read := ih (Nat.lt_of_succ_lt_succ enough)
          have more : ∃ next after, others.flatMap escapePoint ++ .char '"' :: rest =
              next :: after := List.exists_cons_of_ne_nil (by simp)
          obtain ⟨next, after, follows⟩ := more
          rw [List.flatMap_cons, List.append_assoc, follows, readString_escapePoint, readOn,
            ← follows, read]

theorem length_le_flatMap_escapePoint (string : Text) :
    string.length ≤ (string.flatMap escapePoint).length := by
  induction string with
  | nil => exact Nat.le_refl 0
  | cons point others ih =>
      have one : 1 ≤ (escapePoint point).length := by
        have two : List.length ("\\u" : Text) = 2 := by decide
        unfold escapePoint
        split
        case h_8 =>
          split
          · rw [List.length_append, two]
            exact Nat.le_trans (by decide) (Nat.le_add_right 2 _)
          · exact Nat.le_refl 1
        all_goals decide
      rw [List.flatMap_cons, List.length_cons, List.length_append]
      omega

/-! ## Values -/

/-- The values that are read back as they were: no numbers, only kinds of JSON, and no
object with two members of one name. -/
inductive Plain : Value → Prop where
  | null : Plain .null
  | bool (value : Bool) : Plain (.bool value)
  | str (value : Text) : Plain (.str value)
  | list {items : List Value} (each : ∀ item ∈ items, Plain item) : Plain (.list items)
  | object {members : List (Text × Value)} (each : ∀ member ∈ members, Plain member.2)
      (distinct : (members.map Prod.fst).Nodup) : Plain (.object members)

/-- A sign with which the text of a value may begin. -/
def opens (point : CodePoint) : Bool :=
  !isSpace point && point ≠ .char ']' && point ≠ .char '\x7d'

theorem skip_cons {first : CodePoint} (solid : isSpace first = false) (rest : Text) :
    skip (first :: rest) = first :: rest := by
  simp [skip, solid]

/-! ### What is printed -/

section Printed

variable {style : Style}

theorem print_list_eq_ok {items : List Value} {text : Text}
    (printed : print style (.list items) = .ok text) :
    ∃ texts, printItems style items = .ok texts ∧
      text = .char '[' :: (Text.join style.itemSeparator texts ++ [.char ']']) := by
  rw [print] at printed
  cases written : printItems style items with
  | error fault =>
      rw [written] at printed
      cases printed
  | ok texts =>
      rw [written] at printed
      cases printed
      exact ⟨texts, rfl, rfl⟩

theorem print_object_eq_ok {members : List (Text × Value)} {text : Text}
    (printed : print style (.object members) = .ok text) :
    ∃ texts, printMembers style members = .ok texts ∧
      text = .char '\x7b' :: (Text.join style.itemSeparator texts ++ [.char '\x7d']) := by
  rw [print] at printed
  cases written : printMembers style members with
  | error fault =>
      rw [written] at printed
      cases printed
  | ok texts =>
      rw [written] at printed
      cases printed
      exact ⟨texts, rfl, rfl⟩

theorem printItems_cons_eq_ok {item : Value} {items : List Value} {texts : List Text}
    (printed : printItems style (item :: items) = .ok texts) :
    ∃ text others, print style item = .ok text ∧ printItems style items = .ok others ∧
      texts = text :: others := by
  rw [printItems] at printed
  cases first : print style item with
  | error fault =>
      rw [first] at printed
      cases printed
  | ok text =>
      cases rest : printItems style items with
      | error fault =>
          simp only [first, rest] at printed
          cases printed
      | ok others =>
          simp only [first, rest] at printed
          cases printed
          exact ⟨text, others, rfl, rfl, rfl⟩

theorem printMembers_cons_eq_ok {key : Text} {value : Value} {members : List (Text × Value)}
    {texts : List Text} (printed : printMembers style ((key, value) :: members) = .ok texts) :
    ∃ text others, print style value = .ok text ∧ printMembers style members = .ok others ∧
      texts = (printString key ++ style.keySeparator ++ text) :: others := by
  rw [printMembers] at printed
  cases first : print style value with
  | error fault =>
      rw [first] at printed
      cases printed
  | ok text =>
      cases rest : printMembers style members with
      | error fault =>
          simp only [first, rest] at printed
          cases printed
      | ok others =>
          simp only [first, rest] at printed
          cases printed
          exact ⟨text, others, rfl, rfl, rfl⟩

end Printed

/-- The text of a value begins with a sign of its own. -/
def Opens (text : Text) : Prop := ∃ first others, text = first :: others ∧ opens first = true

theorem Plain.head_print {value : Value} (plain : Plain value) {text : Text}
    (printed : print .compact value = .ok text) :
    Opens text := by
  cases plain with
  | null =>
      cases printed
      exact ⟨_, _, rfl, by decide⟩
  | bool value =>
      cases value with
      | false =>
          cases printed
          exact ⟨_, _, rfl, by decide⟩
      | true =>
          cases printed
          exact ⟨_, _, rfl, by decide⟩
  | str value =>
      cases printed
      exact ⟨_, _, rfl, by decide⟩
  | list each =>
      obtain ⟨_, _, rfl⟩ := print_list_eq_ok printed
      exact ⟨_, _, rfl, by decide⟩
  | object each distinct =>
      obtain ⟨_, _, rfl⟩ := print_object_eq_ok printed
      exact ⟨_, _, rfl, by decide⟩

/-! ### What is read -/

/-- A value is read from a text, whatever follows the text. -/
def Reads (value : Value) (text : Text) : Prop :=
  ∀ fuel rest, text.length ≤ fuel → readValue fuel (text ++ rest) = .ok (value, rest)

theorem Opens.skip {text : Text} (opening : Opens text) (rest : Text) :
    Json.skip (text ++ rest) = text ++ rest := by
  obtain ⟨first, others, rfl, sign⟩ := opening
  simp only [opens, Bool.and_eq_true, Bool.not_eq_true'] at sign
  exact skip_cons sign.1.1 _

theorem Opens.join {first : Text} (opening : Opens first) (others : List Text) :
    Opens (Text.join "," (first :: others)) := by
  obtain ⟨sign, tail, rfl, isOpening⟩ := opening
  cases others with
  | nil => exact ⟨sign, tail, rfl, isOpening⟩
  | cons next others => exact ⟨sign, _, rfl, isOpening⟩

theorem join_cons_cons (first next : Text) (others : List Text) (rest : Text) :
    Text.join "," (first :: next :: others) ++ rest =
      first ++ .char ',' :: (Text.join "," (next :: others) ++ rest) := by
  have comma : ("," : Text) = [.char ','] := by decide
  rw [Text.join, List.append_assoc, List.append_assoc]
  conv => lhs; arg 2; arg 1; rw [comma]
  rfl

theorem length_join_cons_cons (first next : Text) (others : List Text) :
    (Text.join "," (first :: next :: others)).length =
      first.length + ((Text.join "," (next :: others)).length + 1) := by
  have whole := congrArg List.length (join_cons_cons first next others [])
  simpa using whole

section Items

variable {item : Value} {text rest : Text} {fuel : Nat}

theorem readItems_last (reads : Reads item text) (enough : text.length ≤ fuel) :
    readItems (fuel + 1) (text ++ .char ']' :: rest) = .ok ([item], rest) := by
  rw [readItems, reads fuel _ enough]
  rfl

theorem readItems_more (reads : Reads item text) (enough : text.length ≤ fuel)
    {items : List Value} {more : Text} (solid : skip more = more)
    (inner : readItems fuel more = .ok (items, rest)) :
    readItems (fuel + 1) (text ++ .char ',' :: more) = .ok (item :: items, rest) := by
  have comma : skip (.char ',' :: more) = .char ',' :: more := skip_cons (by decide) more
  rw [readItems, reads fuel _ enough]
  simp only [comma, solid, inner]

theorem readItems_join {items : List Value} (nonempty : items ≠ [])
    (each : ∀ item ∈ items, ∀ text, print .compact item = .ok text → Reads item text ∧ Opens text)
    {texts : List Text} (printed : printItems .compact items = .ok texts)
    (enough : (Text.join "," texts).length < fuel) :
    readItems fuel (Text.join "," texts ++ .char ']' :: rest) = .ok (items, rest) := by
  induction items generalizing texts fuel with
  | nil => exact absurd rfl nonempty
  | cons item others ih =>
      obtain ⟨text, otherTexts, itemPrinted, othersPrinted, rfl⟩ := printItems_cons_eq_ok printed
      obtain ⟨reads, _⟩ := each item List.mem_cons_self text itemPrinted
      cases fuel with
      | zero => cases enough
      | succ fuel =>
          cases others with
          | nil =>
              cases othersPrinted
              exact readItems_last reads (Nat.le_of_lt_succ enough)
          | cons next others =>
              obtain ⟨nextText, moreTexts, nextPrinted, _, rfl⟩ :=
                printItems_cons_eq_ok othersPrinted
              have opening :=
                (each next (List.mem_cons_of_mem item List.mem_cons_self) nextText nextPrinted).2
              rw [length_join_cons_cons] at enough
              have inner : readItems fuel
                  (Text.join "," (nextText :: moreTexts) ++ .char ']' :: rest) =
                    .ok (next :: others, rest) :=
                ih (by simp) (fun other member => each other (List.mem_cons_of_mem item member))
                  othersPrinted (by omega)
              rw [join_cons_cons]
              exact readItems_more reads (by omega) ((opening.join moreTexts).skip _) inner

end Items

section MembersOfObjects

variable {key text rest : Text} {value : Value} {known : List (Text × Value)} {fuel : Nat}

def memberText (key text : Text) : Text := printString key ++ (":" : Text) ++ text

theorem length_memberText (key text : Text) :
    key.length + text.length + 3 ≤ (memberText key text).length := by
  have escaped := length_le_flatMap_escapePoint key
  have colon : List.length (":" : Text) = 1 := by decide
  simp only [memberText, printString, List.length_append, List.length_cons, List.length_nil, colon]
  omega

/-- What becomes of the members so far with what follows the last of them. -/
def afterMember (fuel : Nat) (known : List (Text × Value)) (rest : Text) :
    Step (List (Text × Value)) :=
  match skip rest with
  | .char '\x7d' :: after => .ok (known, after)
  | .char ',' :: more => readMembers fuel known (skip more)
  | other => stopAt .comma other

theorem readMembers_member (reads : Reads value text) (opening : Opens text)
    (enough : (memberText key text).length ≤ fuel) (rest : Text) :
    readMembers (fuel + 1) known (memberText key text ++ rest) =
      afterMember fuel (Members.insert key value known) rest := by
  have long := length_memberText key text
  have spelled : memberText key text ++ rest =
      .char '"' :: (key.flatMap escapePoint ++ .char '"' :: (.char ':' :: (text ++ rest))) := by
    have colon : (":" : Text) = [.char ':'] := by decide
    rw [memberText, printString, colon]
    simp
  have string : ∀ opening, readString opening fuel
      (key.flatMap escapePoint ++ .char '"' :: (.char ':' :: (text ++ rest))) =
        .ok (key, .char ':' :: (text ++ rest)) := fun opening =>
    readString_escaped opening (by omega) _
  have colon : skip (.char ':' :: (text ++ rest)) = .char ':' :: (text ++ rest) :=
    skip_cons (by decide) _
  rw [spelled, readMembers, string]
  simp only [colon, opening.skip rest, reads fuel rest (by omega)]
  rfl

theorem readMembers_last (reads : Reads value text) (opening : Opens text)
    (enough : (memberText key text).length ≤ fuel) :
    readMembers (fuel + 1) known (memberText key text ++ .char '\x7d' :: rest) =
      .ok (Members.insert key value known, rest) := by
  rw [readMembers_member reads opening enough]
  rfl

theorem readMembers_more (reads : Reads value text) (opening : Opens text)
    (enough : (memberText key text).length ≤ fuel) {more : Text} (solid : skip more = more) :
    readMembers (fuel + 1) known (memberText key text ++ .char ',' :: more) =
      readMembers fuel (Members.insert key value known) more := by
  have comma : skip (.char ',' :: more) = .char ',' :: more := skip_cons (by decide) more
  rw [readMembers_member reads opening enough, afterMember]
  simp only [comma, solid]

theorem insert_of_notMem (fresh : key ∉ known.map Prod.fst) :
    Members.insert key value known = known ++ [(key, value)] := by
  induction known with
  | nil => rfl
  | cons member others ih =>
      rw [List.map_cons, List.mem_cons, not_or] at fresh
      rw [Members.insert, if_neg (Ne.symm fresh.1), ih fresh.2, List.cons_append]

theorem readMembers_join {members : List (Text × Value)} (nonempty : members ≠ [])
    (each : ∀ member ∈ members, ∀ text, print .compact member.2 = .ok text →
      Reads member.2 text ∧ Opens text)
    (distinct : ((known ++ members).map Prod.fst).Nodup) {texts : List Text}
    (printed : printMembers .compact members = .ok texts)
    (enough : (Text.join "," texts).length < fuel) :
    readMembers fuel known (Text.join "," texts ++ .char '\x7d' :: rest) =
      .ok (known ++ members, rest) := by
  induction members generalizing texts fuel known with
  | nil => exact absurd rfl nonempty
  | cons member others ih =>
      obtain ⟨key, value⟩ := member
      obtain ⟨text, otherTexts, valuePrinted, othersPrinted, rfl⟩ :=
        printMembers_cons_eq_ok printed
      obtain ⟨reads, opening⟩ := each (key, value) List.mem_cons_self text valuePrinted
      have fresh : key ∉ known.map Prod.fst := by
        rw [List.map_append, List.map_cons, List.nodup_append] at distinct
        intro member
        exact distinct.2.2 key member key List.mem_cons_self rfl
      have stored : Members.insert key value known = known ++ [(key, value)] :=
        insert_of_notMem fresh
      have isMember : printString key ++ Style.compact.keySeparator ++ text =
          memberText key text := rfl
      rw [isMember] at enough ⊢
      cases fuel with
      | zero => cases enough
      | succ fuel =>
          cases others with
          | nil =>
              cases othersPrinted
              rw [← stored]
              exact readMembers_last reads opening (Nat.le_of_lt_succ enough)
          | cons next others =>
              obtain ⟨nextKey, nextValue⟩ := next
              obtain ⟨nextText, moreTexts, nextPrinted, _, rfl⟩ :=
                printMembers_cons_eq_ok othersPrinted
              have nextOpening : Opens (printString nextKey ++ Style.compact.keySeparator
                  ++ nextText) := ⟨.char '"', _, rfl, by decide⟩
              have shifted : known ++ (key, value) :: (nextKey, nextValue) :: others =
                  (known ++ [(key, value)]) ++ (nextKey, nextValue) :: others := by simp
              rw [length_join_cons_cons] at enough
              rw [shifted] at distinct ⊢
              rw [join_cons_cons, readMembers_more reads opening (by omega)
                ((nextOpening.join moreTexts).skip _), stored]
              exact ih (by simp) (fun other member => each other (List.mem_cons_of_mem _ member))
                distinct othersPrinted (by omega)

end MembersOfObjects

/-- The words that plain values are written with. -/
def plainWords : List (String × Value) :=
  [("null", .null), ("true", .bool true), ("false", .bool false)]

theorem readScalar_word {word : String} {value : Value} (listed : (word, value) ∈ plainWords)
    (rest : Text) : readScalar ((word : Text) ++ rest) = .ok (value, rest) := by
  simp only [plainWords, List.mem_cons, List.not_mem_nil, or_false, Prod.mk.injEq] at listed
  rcases listed with ⟨rfl, rfl⟩ | ⟨rfl, rfl⟩ | ⟨rfl, rfl⟩
  all_goals simp [readScalar, words, Text.ofString, Text.ofChars, Text.afterPrefix?]

/-- A word is read as the value that it stands for. -/
theorem readValue_word {word : String} {value : Value} {first : CodePoint} {others rest : Text}
    (spelled : (word : Text) = first :: others)
    (letter : first ≠ .char '"' ∧ first ≠ .char '[' ∧ first ≠ .char '\x7b')
    (stands : readScalar ((word : Text) ++ rest) = .ok (value, rest)) (fuel : Nat) :
    readValue (fuel + 1) ((word : Text) ++ rest) = .ok (value, rest) := by
  rw [spelled, List.cons_append] at stands ⊢
  rw [readValue]
  · exact stands
  · exact fun _ same => letter.1 (List.cons.inj same).1
  · exact fun _ same => letter.2.1 (List.cons.inj same).1
  · exact fun _ same => letter.2.2 (List.cons.inj same).1

section Brackets

variable {text rest left : Text} {fuel : Nat}

theorem readValue_list (opening : Opens text) {items : List Value}
    (inner : readItems fuel (text ++ rest) = .ok (items, left)) :
    readValue (fuel + 1) (.char '[' :: (text ++ rest)) = .ok (.list items, left) := by
  have solid := opening.skip rest
  obtain ⟨first, others, rfl, sign⟩ := opening
  simp only [opens, Bool.and_eq_true, decide_eq_true_eq] at sign
  rw [readValue, solid]
  split
  · next after same => exact absurd (List.cons.inj same).1 sign.1.2
  · rw [inner]

theorem readValue_object (opening : Opens text) {members : List (Text × Value)}
    (inner : readMembers fuel [] (text ++ rest) = .ok (members, left)) :
    readValue (fuel + 1) (.char '\x7b' :: (text ++ rest)) = .ok (.object members, left) := by
  have solid := opening.skip rest
  obtain ⟨first, others, rfl, sign⟩ := opening
  simp only [opens, Bool.and_eq_true, decide_eq_true_eq] at sign
  rw [readValue, solid]
  split
  · next after same => exact absurd (List.cons.inj same).1 sign.2
  · rw [inner]

end Brackets

/-! ## Values -/

theorem reads_word {word : String} {value : Value} (listed : (word, value) ∈ plainWords) :
    Reads value word := by
  intro fuel rest enough
  have stands := readScalar_word listed rest
  simp only [plainWords, List.mem_cons, List.not_mem_nil, or_false, Prod.mk.injEq] at listed
  cases fuel with
  | zero => rcases listed with ⟨rfl, rfl⟩ | ⟨rfl, rfl⟩ | ⟨rfl, rfl⟩ <;> cases enough
  | succ fuel =>
      rcases listed with ⟨rfl, rfl⟩ | ⟨rfl, rfl⟩ | ⟨rfl, rfl⟩
      · exact readValue_word rfl (by decide) stands fuel
      · exact readValue_word rfl (by decide) stands fuel
      · exact readValue_word rfl (by decide) stands fuel

theorem reads_string (value : Text) : Reads (.str value) (printString value) := by
  intro fuel rest enough
  have escaped := length_le_flatMap_escapePoint value
  simp only [printString, List.length_cons, List.length_append, List.length_nil] at enough
  cases fuel with
  | zero => omega
  | succ fuel =>
      have string : ∀ opening, readString opening fuel
          (value.flatMap escapePoint ++ .char '"' :: rest) = .ok (value, rest) :=
        fun opening => readString_escaped opening (by omega) rest
      rw [printString, List.cons_append, List.append_assoc, List.singleton_append, readValue,
        string]

theorem reads_list {items : List Value} {texts : List Text}
    (each : ∀ item ∈ items, ∀ text, print .compact item = .ok text →
      Reads item text ∧ Opens text)
    (printed : printItems .compact items = .ok texts) :
    Reads (.list items) (.char '[' :: (Text.join "," texts ++ [.char ']'])) := by
  intro fuel rest enough
  simp only [List.length_cons, List.length_append, List.length_nil] at enough
  cases fuel with
  | zero => omega
  | succ fuel =>
      rw [List.cons_append, List.append_assoc, List.singleton_append]
      cases items with
      | nil =>
          cases printed
          rw [readValue]
          rfl
      | cons item others =>
          obtain ⟨text, otherTexts, itemPrinted, _, rfl⟩ := printItems_cons_eq_ok printed
          have opening := (each item List.mem_cons_self text itemPrinted).2
          apply readValue_list (opening.join otherTexts)
          exact readItems_join (by simp) each printed
            (Nat.lt_of_succ_le (Nat.le_of_succ_le_succ enough))

theorem reads_object {members : List (Text × Value)} {texts : List Text}
    (each : ∀ member ∈ members, ∀ text, print .compact member.2 = .ok text →
      Reads member.2 text ∧ Opens text)
    (distinct : (members.map Prod.fst).Nodup)
    (printed : printMembers .compact members = .ok texts) :
    Reads (.object members) (.char '\x7b' :: (Text.join "," texts ++ [.char '\x7d'])) := by
  intro fuel rest enough
  simp only [List.length_cons, List.length_append, List.length_nil] at enough
  cases fuel with
  | zero => omega
  | succ fuel =>
      rw [List.cons_append, List.append_assoc, List.singleton_append]
      cases members with
      | nil =>
          cases printed
          rw [readValue]
          rfl
      | cons member others =>
          obtain ⟨text, otherTexts, _, _, rfl⟩ := printMembers_cons_eq_ok printed
          have opening : Opens (printString member.1 ++ Style.compact.keySeparator ++ text) :=
            ⟨.char '"', _, rfl, by decide⟩
          apply readValue_object (opening.join otherTexts)
          exact readMembers_join (by simp) each distinct printed
            (Nat.lt_of_succ_le (Nat.le_of_succ_le_succ enough))

/-- A plain value is read from its compact text, whatever follows it. -/
theorem Plain.reads {value : Value} (plain : Plain value) {text : Text}
    (printed : print .compact value = .ok text) : Reads value text := by
  induction plain generalizing text with
  | null =>
      cases printed
      exact reads_word (by simp [plainWords])
  | bool value =>
      cases value with
      | false =>
          cases printed
          exact reads_word (by simp [plainWords])
      | true =>
          cases printed
          exact reads_word (by simp [plainWords])
  | str value =>
      cases printed
      exact reads_string value
  | list each ih =>
      obtain ⟨texts, itemsPrinted, rfl⟩ := print_list_eq_ok printed
      refine reads_list (fun item member text written => ?_) itemsPrinted
      exact ⟨ih item member written, (each item member).head_print written⟩
  | object each distinct ih =>
      obtain ⟨texts, membersPrinted, rfl⟩ := print_object_eq_ok printed
      refine reads_object (fun one member text written => ?_) distinct membersPrinted
      exact ⟨ih one member written, (each one member).head_print written⟩

/-- A plain value comes back from its compact text. -/
theorem Plain.read_print {value : Value} (plain : Plain value) {text : Text}
    (printed : print .compact value = .ok text) : read text = .ok value := by
  have whole := plain.reads printed (text.length + 1) [] (Nat.le_succ _)
  have start := (plain.head_print printed).skip []
  rw [List.append_nil] at whole start
  rw [read, start, whole]
  rfl

end SamlAdmin.Json
