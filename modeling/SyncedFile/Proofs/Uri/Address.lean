import SyncedFile.Uri.Basic
import SyncedFile.Proofs.Text.LowerCase
import SyncedFile.Proofs.Text.Pieces

/-!
# Addresses in lower case

A host is read in lower case up to a zone. An address between brackets is still one afterwards: the
digits in base sixteen stay digits, and the characters between them stay what they are.

* `lowerAddress` — lower case up to a zone, character by character;
* `checkAddress_lowerAddress` — an address stays one.
-/

namespace SyncedFile.Uri

open Text (lowerToAscii)

/-! ## Characters of addresses -/

theorem isHexDigit_lowerToAscii (c : Char) : isHexDigit (lowerToAscii c) = isHexDigit c :=
  Text.apply_lowerToAscii (by decide) (by decide) c

theorem isDigit_lowerToAscii (c : Char) : (lowerToAscii c).isDigit = c.isDigit :=
  Text.apply_lowerToAscii (by decide) (by decide) c

theorem lowerToAscii_eq_iff {c d : Char} (ascii : d.toNat < 0x80) (notLetter : d.isAlpha = false) :
    lowerToAscii c = d ↔ c = d := by
  rw [lowerToAscii]
  split
  · next kelvin =>
    constructor
    · rintro rfl
      exact absurd notLetter (by decide)
    · rintro rfl
      omega
  · by_cases small : c.toNat < 0x80
    · have kept : ∀ n < 0x80, (Char.ofNat n).toLower.isAlpha = false →
          (Char.ofNat n).toLower = Char.ofNat n := by decide
      have fixed : ∀ n < 0x80, (Char.ofNat n).isAlpha = false →
          (Char.ofNat n).toLower = Char.ofNat n := by decide
      constructor
      · rintro rfl
        have unchanged := kept c.toNat small
        rw [Char.ofNat_toNat] at unchanged
        exact (unchanged notLetter).symm
      · rintro rfl
        have unchanged := fixed c.toNat small
        rw [Char.ofNat_toNat] at unchanged
        exact unchanged notLetter
    · rw [Text.toLower_of_not_ascii small]

theorem lowerToAscii_of_isDigit {c : Char} (digit : c.isDigit = true) : lowerToAscii c = c := by
  have ascii : c.toNat < 0x80 := by
    simp only [Char.isDigit, Bool.and_eq_true, decide_eq_true_eq] at digit
    exact Nat.lt_of_le_of_lt (UInt32.le_iff_toNat_le.1 digit.2) (by decide)
  exact Text.of_ascii (P := fun c => c.isDigit = true → lowerToAscii c = c) (by decide) ascii digit

/-! ## Pieces of addresses -/

theorem splitOn_map_lowerToAscii {sep : Char} (ascii : sep.toNat < 0x80)
    (notLetter : sep.isAlpha = false) (t : Text) :
    Text.splitOn sep (t.map lowerToAscii) = (Text.splitOn sep t).map (·.map lowerToAscii) := by
  induction t with
  | nil => rfl
  | cons c rest ih =>
    rw [List.map_cons, Text.splitOn, Text.splitOn, ih]
    by_cases isSep : c = sep
    · rw [if_pos ((lowerToAscii_eq_iff ascii notLetter).2 isSep), if_pos isSep]
      rfl
    · rw [if_neg fun eq => isSep ((lowerToAscii_eq_iff ascii notLetter).1 eq), if_neg isSep]
      cases Text.splitOn sep rest <;> rfl

theorem all_map_of_iff {p : Char → Bool} (kept : ∀ c, p (lowerToAscii c) = p c) (t : Text) :
    (t.map lowerToAscii).all p = t.all p := by
  rw [List.all_map]
  exact congrArg t.all (funext kept)

theorem digits?_map_lowerToAscii (t : Text) : Text.digits? (t.map lowerToAscii) = Text.digits? t := by
  by_cases digits : t.all Char.isDigit = true
  · have same : t.map lowerToAscii = t := by
      conv => rhs; rw [← List.map_id t]
      exact List.map_congr_left fun c mem => lowerToAscii_of_isDigit (List.all_eq_true.1 digits c mem)
    rw [same]
  · have others : ¬ (t.map lowerToAscii).all Char.isDigit = true := by
      rwa [all_map_of_iff isDigit_lowerToAscii]
    rw [Text.digits?, Text.digits?, if_neg fun h => others h.2, if_neg fun h => digits h.2]

theorem bne_congr_of_iff {α : Type} [BEq α] [LawfulBEq α] {x y z : α}
    (same : x = z ↔ y = z) : (x != z) = (y != z) := by
  rw [Bool.eq_iff_iff, bne_iff_ne, bne_iff_ne]
  exact not_congr same

theorem isOctetNumeral_map_lowerToAscii (t : Text) :
    isOctetNumeral (t.map lowerToAscii) = isOctetNumeral t := by
  have zero : (t.map lowerToAscii).head? = some '0' ↔ t.head? = some '0' := by
    cases t with
    | nil => rfl
    | cons c rest =>
      simp only [List.map_cons, List.head?_cons, Option.some.injEq]
      exact lowerToAscii_eq_iff (by decide) (by decide)
  rw [isOctetNumeral, isOctetNumeral, digits?_map_lowerToAscii, List.length_map,
    bne_congr_of_iff zero]

theorem isVersion4_map_lowerToAscii (t : Text) :
    isVersion4 (t.map lowerToAscii) = isVersion4 t := by
  rw [isVersion4, isVersion4, splitOn_map_lowerToAscii (by decide) (by decide), List.length_map,
    List.all_map]
  exact congrArg _ (congrArg (Text.splitOn '.' t).all (funext isOctetNumeral_map_lowerToAscii))

theorem isHextet_map_lowerToAscii (t : Text) : isHextet (t.map lowerToAscii) = isHextet t := by
  rw [isHextet, isHextet, List.isEmpty_map, List.length_map, all_map_of_iff isHexDigit_lowerToAscii]

theorem all_isHextet_map_lowerToAscii (pieces : List Text) :
    (pieces.map (·.map lowerToAscii)).all isHextet = pieces.all isHextet := by
  rw [List.all_map]
  exact congrArg pieces.all (funext isHextet_map_lowerToAscii)

section Pieces

variable (pieces : List Text)

theorem head?_map_eq_nil_iff :
    (pieces.map (·.map lowerToAscii)).head? = some [] ↔ pieces.head? = some [] := by
  cases pieces <;> simp

theorem getLast?_map_eq_nil_iff :
    (pieces.map (·.map lowerToAscii)).getLast? = some [] ↔ pieces.getLast? = some [] := by
  rw [← List.head?_reverse, ← List.map_reverse, head?_map_eq_nil_iff, List.head?_reverse]

theorem withoutEmptyHead_map :
    (if (pieces.map (·.map lowerToAscii)).head? = some [] then (pieces.map (·.map lowerToAscii)).tail
      else pieces.map (·.map lowerToAscii)) =
    (if pieces.head? = some [] then pieces.tail else pieces).map (·.map lowerToAscii) := by
  simp only [head?_map_eq_nil_iff]
  split
  · exact List.map_tail.symm
  · rfl

theorem withoutEmptyLast_map :
    (if (pieces.map (·.map lowerToAscii)).getLast? = some []
      then (pieces.map (·.map lowerToAscii)).dropLast else pieces.map (·.map lowerToAscii)) =
    (if pieces.getLast? = some [] then pieces.dropLast else pieces).map (·.map lowerToAscii) := by
  simp only [getLast?_map_eq_nil_iff]
  split
  · exact List.map_dropLast.symm
  · rfl

theorem areHextets_map_lowerToAscii :
    areHextets (pieces.map (·.map lowerToAscii)) = areHextets pieces := by
  have empty : (fun t : Text => t.isEmpty) ∘ (fun t : Text => t.map lowerToAscii) =
      fun t => t.isEmpty := funext fun t => List.isEmpty_map
  have inner : (pieces.map (·.map lowerToAscii)).tail.dropLast =
      pieces.tail.dropLast.map (·.map lowerToAscii) := by
    rw [← List.map_tail, List.map_dropLast]
  have heads (pieces : List Text) := bne_congr_of_iff (head?_map_eq_nil_iff pieces)
  have lasts (pieces : List Text) := bne_congr_of_iff (getLast?_map_eq_nil_iff pieces)
  simp only [areHextets, inner, List.findIdx?_map, List.countP_map, empty]
  -- The place of the empty piece divides the pieces alike on both sides.
  cases (pieces.tail.dropLast).findIdx? fun t => t.isEmpty with
  | none => simp only [List.length_map, all_isHextet_map_lowerToAscii]
  | some i =>
    simp only [← List.map_take, ← List.map_drop, withoutEmptyHead_map, withoutEmptyLast_map, heads,
      lasts, List.length_map, List.isEmpty_map, all_isHextet_map_lowerToAscii]

end Pieces

theorem isUnzonedVersion6_map_lowerToAscii (t : Text) :
    isUnzonedVersion6 (t.map lowerToAscii) = isUnzonedVersion6 t := by
  have pieces : Text.splitOn ':' (t.map lowerToAscii) =
      (Text.splitOn ':' t).map (·.map lowerToAscii) :=
    splitOn_map_lowerToAscii (by decide) (by decide) t
  have last : ((Text.splitOn ':' t).map (·.map lowerToAscii)).getLast?.getD [] =
      ((Text.splitOn ':' t).getLast?.getD []).map lowerToAscii := by
    rw [List.getLast?_map]
    cases (Text.splitOn ':' t).getLast? <;> rfl
  have point (u : Text) : '.' ∈ u.map lowerToAscii ↔ '.' ∈ u := by
    rw [List.mem_map]
    constructor
    · rintro ⟨c, mem, eq⟩
      rwa [← (lowerToAscii_eq_iff (by decide) (by decide)).1 eq]
    · intro mem
      exact ⟨'.', mem, (lowerToAscii_eq_iff (by decide) (by decide)).2 rfl⟩
  have extended (ps : List Text) : areHextets (ps.map (·.map lowerToAscii) ++ [['0'], ['0']]) =
      areHextets (ps ++ [['0'], ['0']]) := by
    have zeros : ps.map (·.map lowerToAscii) ++ [['0'], ['0']] =
        (ps ++ [['0'], ['0']]).map (·.map lowerToAscii) := by
      rw [List.map_append]
      rfl
    rw [zeros, areHextets_map_lowerToAscii]
  simp only [isUnzonedVersion6, pieces, last, point, List.length_map, isVersion4_map_lowerToAscii,
    ← List.map_dropLast, extended, areHextets_map_lowerToAscii]

/-! ## What an address begins with -/

theorem notMem_colon_of_isVersion4 {t : Text} (accepted : isVersion4 t = true) : ':' ∉ t := by
  intro mem
  rw [← Text.joinWith_splitOn '.' t] at mem
  simp only [isVersion4, Bool.and_eq_true, List.all_eq_true] at accepted
  rcases Text.mem_joinWith mem with inSep | ⟨piece, hp, hc⟩
  · exact absurd inSep (by decide)
  · have numeral := accepted.2 piece hp
    rw [isOctetNumeral, Text.digits?] at numeral
    split at numeral
    · next n isNumeral =>
      split at isNumeral
      · next digits => exact absurd (List.all_eq_true.1 digits.2 ':' hc) (by decide)
      · cases isNumeral
    · cases numeral

theorem isUnzonedVersion6_of_isVersion6 {t : Text} (accepted : isVersion6 t = true) :
    isUnzonedVersion6 (Text.cut '%' t).1 = true := by
  rw [isVersion6] at accepted
  split at accepted
  · next eq => rwa [eq]
  · next eq =>
    simp only [Bool.and_eq_true] at accepted
    rw [eq]
    exact accepted.2

theorem mem_colon_of_isVersion6 {t : Text} (accepted : isVersion6 t = true) : ':' ∈ t := by
  have unzoned := isUnzonedVersion6_of_isVersion6 accepted
  refine @Text.mem_of_mem_cut_fst '%' ':' t (Decidable.byContradiction fun absent => ?_)
  rw [isUnzonedVersion6, Text.splitOn_of_notMem absent] at unzoned
  simp at unzoned

theorem all_isHexDigit_of_areHextets {first : Text} {more : List Text}
    (accepted : areHextets (first :: more) = true) : first.all isHexDigit = true := by
  have digits {ps : List Text} (all : (first :: ps).all isHextet = true) :
      first.all isHexDigit = true := by
    simp only [List.all_cons, isHextet, Bool.and_eq_true] at all
    exact all.1.2
  by_cases empty : first = []
  · rw [empty]
    rfl
  · rw [areHextets] at accepted
    split at accepted
    · exact digits (Bool.and_eq_true _ _ ▸ accepted).2
    · next i =>
      simp only [List.take_succ_cons, List.head?_cons, Option.some.injEq, empty, if_false,
        Bool.and_eq_true] at accepted
      exact digits accepted.1.2

theorem head?_ne_of_isVersion6 {t : Text} (accepted : isVersion6 t = true) :
    t.head? ≠ some 'v' := by
  intro head
  obtain ⟨rest, rfl⟩ := List.head?_eq_some_iff.1 head
  have unzoned : isUnzonedVersion6 ('v' :: (Text.cut '%' rest).1) = true :=
    isUnzonedVersion6_of_isVersion6 accepted
  have noDigits {first : Text} {more : List Text}
      (all : areHextets (('v' :: first) :: more) = true) : False :=
    absurd (all_isHexDigit_of_areHextets all) (by simp [isHexDigit])
  rw [isUnzonedVersion6] at unzoned
  cases pieces : Text.splitOn ':' (Text.cut '%' rest).1 with
  | nil => exact Text.splitOn_ne_nil _ _ pieces
  | cons first more =>
    have whole : Text.splitOn ':' ('v' :: (Text.cut '%' rest).1) = ('v' :: first) :: more := by
      rw [Text.splitOn, if_neg (by decide), pieces]
      rfl
    simp only [whole, Bool.and_eq_true] at unzoned
    obtain ⟨three, form⟩ := unzoned
    split at form
    · cases more with
      | nil => simp at three
      | cons second more =>
        simp only [List.dropLast_cons_cons, List.cons_append, Bool.and_eq_true] at form
        exact noDigits form.2
    · exact noDigits form

/-! ## Addresses in lower case -/

/-- A host whose lower-case form is ASCII, in lower case up to a zone. -/
def lowerAddress : Text → Text
  | [] => []
  | c :: rest => if c = '%' then c :: rest else lowerToAscii c :: lowerAddress rest

theorem lowerAddress_of_notMem {t : Text} (absent : '%' ∉ t) :
    lowerAddress t = t.map lowerToAscii := by
  induction t with
  | nil => rfl
  | cons c rest ih =>
    simp only [List.mem_cons, not_or] at absent
    rw [lowerAddress, if_neg (Ne.symm absent.1), ih absent.2]
    rfl

theorem lowerAddress_append_cons {t : Text} (absent : '%' ∉ t) (zone : Text) :
    lowerAddress (t ++ '%' :: zone) = t.map lowerToAscii ++ '%' :: zone := by
  induction t with
  | nil => rfl
  | cons c rest ih =>
    simp only [List.mem_cons, not_or] at absent
    rw [List.cons_append, lowerAddress, if_neg (Ne.symm absent.1), ih absent.2]
    rfl

theorem notMem_percent_map_lowerToAscii {t : Text} (absent : '%' ∉ t) :
    '%' ∉ t.map lowerToAscii := by
  intro mem
  obtain ⟨c, inText, eq⟩ := List.mem_map.1 mem
  rw [(lowerToAscii_eq_iff (by decide) (by decide)).1 eq] at inText
  exact absent inText

theorem isVersion6_lowerAddress (t : Text) : isVersion6 (lowerAddress t) = isVersion6 t := by
  rcases Text.cut_cases '%' t with ⟨absent, eq⟩ | ⟨address, zone, rfl, absent, eq⟩
  · rw [lowerAddress_of_notMem absent, isVersion6, isVersion6, eq,
      Text.cut_of_notMem (notMem_percent_map_lowerToAscii absent)]
    exact isUnzonedVersion6_map_lowerToAscii t
  · rw [lowerAddress_append_cons absent, isVersion6, isVersion6, eq,
      Text.cut_append_cons (notMem_percent_map_lowerToAscii absent)]
    simp only [isUnzonedVersion6_map_lowerToAscii]

theorem takeWhile_isHexDigit_lowerAddress (t : Text) :
    (lowerAddress t).takeWhile isHexDigit = (t.takeWhile isHexDigit).map lowerToAscii := by
  induction t with
  | nil => rfl
  | cons c rest ih =>
    rw [lowerAddress]
    by_cases percent : c = '%'
    · rw [if_pos percent, percent]
      rfl
    · rw [if_neg percent, List.takeWhile_cons, List.takeWhile_cons, isHexDigit_lowerToAscii, ih]
      split <;> rfl

theorem dropWhile_isHexDigit_lowerAddress (t : Text) :
    (lowerAddress t).dropWhile isHexDigit = lowerAddress (t.dropWhile isHexDigit) := by
  induction t with
  | nil => rfl
  | cons c rest ih =>
    by_cases percent : c = '%'
    · rw [lowerAddress, if_pos percent, percent]
      rfl
    · rw [lowerAddress, if_neg percent, List.dropWhile_cons, List.dropWhile_cons,
        isHexDigit_lowerToAscii, ih]
      split
      · rfl
      · rw [lowerAddress, if_neg percent]

theorem isFutureLiteral_lowerAddress {t : Text} (accepted : isFutureLiteral t = true) :
    isFutureLiteral (lowerAddress t) = true := by
  unfold isFutureLiteral at accepted
  split at accepted
  · next rest =>
    split at accepted
    · next c after rest' =>
      have lowered : lowerAddress ('v' :: rest) = 'v' :: lowerAddress rest := rfl
      have tail : ∃ d more, lowerAddress ('.' :: c :: after) = '.' :: d :: more := by
        by_cases percent : c = '%'
        · exact ⟨c, after, by simp [lowerAddress, percent]; rfl⟩
        · exact ⟨lowerToAscii c, lowerAddress after, by simp [lowerAddress, percent]; rfl⟩
      obtain ⟨d, more, tail⟩ := tail
      simp only [lowered, isFutureLiteral, dropWhile_isHexDigit_lowerAddress,
        takeWhile_isHexDigit_lowerAddress, rest', tail, List.isEmpty_map, accepted]
    · cases accepted
  · cases accepted

theorem head?_lowerAddress_eq {t : Text} (head : t.head? = some 'v') :
    (lowerAddress t).head? = some 'v' := by
  obtain ⟨rest, rfl⟩ := List.head?_eq_some_iff.1 head
  rfl

theorem checkAddress_of_isVersion6 {host : Text} (accepted : isVersion6 host = true) :
    checkAddress host = .ok () := by
  have notVersion4 : ¬ isVersion4 host = true := fun version4 =>
    notMem_colon_of_isVersion4 version4 (mem_colon_of_isVersion6 accepted)
  rw [checkAddress, if_neg (head?_ne_of_isVersion6 accepted), if_neg notVersion4, if_pos accepted]

theorem checkAddress_cases {host : Text} (accepted : checkAddress host = .ok ()) :
    host.head? = some 'v' ∧ isFutureLiteral host = true ∨ isVersion6 host = true := by
  rw [checkAddress] at accepted
  split at accepted
  · next head =>
    split at accepted
    · next future => exact .inl ⟨head, future⟩
    · cases accepted
  · split at accepted
    · cases accepted
    · split at accepted
      · next version6 => exact .inr version6
      · cases accepted

theorem checkAddress_lowerAddress {host : Text} (accepted : checkAddress host = .ok ()) :
    checkAddress (lowerAddress host) = .ok () := by
  rcases checkAddress_cases accepted with ⟨head, future⟩ | version6
  · rw [checkAddress, if_pos (head?_lowerAddress_eq head),
      if_pos (isFutureLiteral_lowerAddress future)]
  · exact checkAddress_of_isVersion6 (isVersion6_lowerAddress host ▸ version6)

end SyncedFile.Uri
