import SyncedFile.Uri.Authority
import SyncedFile.Proofs.Uri.Address

/-!
# Hosts that are read from a URI

What is known of the host of a URI that could be read, wherever it comes from: a raw identifier or
the address of an origin. All of it is read off the way the URI is taken apart.

* `split_eq_ok_iff` — when a URI can be read, and what its parts are;
* `IsHost`, `isHost_of_split` — the hosts that are read.
-/

namespace SyncedFile.Uri

open Text (IsAscii)

/-! ## Taking a URI apart -/

/-- The parts of a URI whose scheme and authority have been taken off. -/
def ofParts (scheme authority rest : Text) : Uri where
  scheme := scheme
  authority := authority
  path := (Text.cut '?' (Text.cut '#' rest).1).1
  query := (Text.cut '?' (Text.cut '#' rest).1).2.getD []
  fragment := (Text.cut '#' rest).2.getD []

/-- A line break after a URI changes nothing. -/
theorem split_append_lineBreak (t : Text) : split (t ++ ['\n']) = split t := by
  have cleaned : clean (t ++ ['\n']) = clean t := by
    rw [clean, clean, List.dropWhile_append]
    split
    · next blank => rw [List.isEmpty_iff.1 blank]; rfl
    · rw [List.filter_append]
      exact List.append_nil _
  rw [split, split, cleaned]

theorem split_dropFinal (t : Text) : split (Text.dropFinal '\n' t) = split t := by
  rcases Text.dropFinal_cases '\n' t with broken | whole
  · exact (split_append_lineBreak _).symm.trans (congrArg split broken.symm)
  · rw [whole]

/-- Only characters beyond ASCII can hide a delimiter in their compatibility form. -/
theorem hidesDelimiter_of_isAscii {t : Text} (ascii : IsAscii t) : Text.hidesDelimiter t = false := by
  have forms : ∀ n ∈ Text.delimiterForms, 0x80 ≤ n := by decide
  rw [Text.hidesDelimiter, List.any_eq_false]
  intro c mem hides
  exact absurd (ascii c mem) (Nat.not_lt.2 (forms c.toNat (of_decide_eq_true hides)))

theorem split_eq_error {t : Text} {fault : Fault}
    (refused : checkBrackets (splitAuthority (splitScheme (clean t)).2).1 = .error fault) :
    split t = .error fault := by
  simp only [split, bind, Except.bind, refused]

/-- A URI can be read if its authority is in order; the parts follow one after the other. -/
theorem split_eq_ok_iff {t : Text} {uri : Uri} :
    split t = .ok uri ↔
      checkBrackets (splitAuthority (splitScheme (clean t)).2).1 = .ok () ∧
        Text.hidesDelimiter (splitAuthority (splitScheme (clean t)).2).1 = false ∧
        uri = ofParts (splitScheme (clean t)).1 (splitAuthority (splitScheme (clean t)).2).1
          (splitAuthority (splitScheme (clean t)).2).2 := by
  simp only [split, bind, Except.bind]
  cases checkBrackets (splitAuthority (splitScheme (clean t)).2).1 with
  | error fault => simp
  | ok =>
    cases Text.hidesDelimiter (splitAuthority (splitScheme (clean t)).2).1 with
    | true => simp [throw, throwThe, MonadExceptOf.throw]
    | false =>
      simp only [Bool.false_eq_true, if_false, pure, Except.pure, ofParts, Except.ok.injEq,
        true_and]
      exact eq_comm

theorem notMem_splitAuthority {t : Text} {c : Char} (ends : c ∈ ['/', '?', '#']) :
    c ∉ (splitAuthority t).1 := by
  intro mem
  unfold splitAuthority at mem
  split at mem
  · exact Text.notMem_of_mem_spanUntil mem ends
  · cases mem

theorem mem_of_mem_splitScheme {t : Text} {c : Char} (mem : c ∈ (splitScheme t).2) : c ∈ t := by
  rw [splitScheme] at mem
  rcases Text.cut_cases ':' t with ⟨-, eq⟩ | ⟨scheme, rest, rfl, -, eq⟩
  · simpa only [eq] using mem
  · simp only [eq] at mem
    split at mem
    · exact List.mem_append_right _ (List.mem_cons_of_mem _ mem)
    · exact mem

theorem mem_of_mem_splitAuthority {t : Text} {c : Char}
    (mem : c ∈ (splitAuthority t).1 ∨ c ∈ (splitAuthority t).2) : c ∈ t := by
  unfold splitAuthority at mem
  split at mem
  · next rest =>
    refine List.mem_cons_of_mem _ (List.mem_cons_of_mem _ ?_)
    rw [← Text.append_spanUntil ['/', '?', '#'] rest, List.mem_append]
    exact mem
  · exact mem.resolve_left List.not_mem_nil

theorem mem_clean_of_split {t : Text} {uri : Uri} {c : Char} (read : split t = .ok uri)
    (mem : c ∈ uri.authority ∨ c ∈ uri.path ∨ c ∈ uri.query ∨ c ∈ uri.fragment) :
    c ∈ clean t := by
  obtain ⟨-, -, rfl⟩ := split_eq_ok_iff.1 read
  apply mem_of_mem_splitScheme
  apply mem_of_mem_splitAuthority
  refine mem.imp_right fun mem => ?_
  rcases mem with inPath | inQuery | inFragment
  · exact Text.mem_of_mem_cut_fst (Text.mem_of_mem_cut_fst inPath)
  · exact Text.mem_of_mem_cut_fst (Text.mem_of_mem_cut_snd inQuery)
  · exact Text.mem_of_mem_cut_snd inFragment

theorem mem_hostInfo {authority : Text} {c : Char} (mem : c ∈ hostInfo authority) :
    c ∈ authority := by
  rw [hostInfo] at mem
  rcases Text.cutLast_cases '@' authority with ⟨-, eq⟩ | ⟨before, rest, rfl, -, eq⟩
  · rwa [eq] at mem
  · rw [eq] at mem
    exact List.mem_append_right _ (List.mem_cons_of_mem _ mem)

theorem notMem_at_hostInfo (authority : Text) : '@' ∉ hostInfo authority := by
  rw [hostInfo]
  rcases Text.cutLast_cases '@' authority with ⟨absent, eq⟩ | ⟨before, rest, -, absent, eq⟩ <;>
    rwa [eq]

theorem mem_hostAndPort_fst {authority : Text} {c : Char} (mem : c ∈ (hostAndPort authority).1) :
    c ∈ hostInfo authority := by
  rw [hostAndPort] at mem
  rcases Text.cut_cases '[' (hostInfo authority) with ⟨-, eq⟩ | ⟨before, bracketed, whole, -, eq⟩
  · simp only [eq] at mem
    exact Text.mem_of_mem_cut_fst mem
  · simp only [eq] at mem
    rw [whole]
    exact List.mem_append_right _ (List.mem_cons_of_mem _ (Text.mem_of_mem_cut_fst mem))

/-! ## Lower case up to a zone -/

/-- A host in lower case, up to a zone, which keeps its case. -/
def lowerHost (host : Text) : Text :=
  match Text.cut '%' host with
  | (name, none) => Text.lower name
  | (name, some zone) => Text.lower name ++ '%' :: zone

theorem host?_eq (uri : Uri) : uri.host? =
    if (hostAndPort uri.authority).1 = [] then none
    else some (lowerHost (hostAndPort uri.authority).1) := by
  rw [host?, lowerHost]
  split
  · rfl
  · obtain ⟨name, zone⟩ := Text.cut '%' (hostAndPort uri.authority).1
    cases zone <;> rfl

theorem lowerHost_of_notMem {host : Text} (absent : '%' ∉ host) :
    lowerHost host = Text.lower host := by
  rw [lowerHost, Text.cut_of_notMem absent]

theorem lowerHost_append_cons {name : Text} (absent : '%' ∉ name) (zone : Text) :
    lowerHost (name ++ '%' :: zone) = Text.lower name ++ '%' :: zone := by
  rw [lowerHost, Text.cut_append_cons absent]

theorem mem_of_mem_lower {t : Text} {d : Char} (mem : d ∈ Text.lower t) (ascii : d.toNat < 0x80)
    (notLetter : d.isAlpha = false) : d ∈ t := by
  rcases Text.mem_lower_of_ascii mem ascii with ⟨c, inText, eq⟩ | rfl | rfl
  · have kelvin : c.toNat ≠ 0x212A := by
      rintro sign
      rw [← Char.ofNat_toNat c, sign] at eq
      rw [eq] at ascii
      exact absurd ascii (by decide)
    have same : Text.lowerToAscii c = d := (if_neg kelvin).trans eq.symm
    rwa [← (lowerToAscii_eq_iff ascii notLetter).1 same]
  · exact absurd notLetter (by decide)
  · exact absurd notLetter (by decide)

theorem mem_of_mem_lowerHost {host : Text} {d : Char} (mem : d ∈ lowerHost host)
    (ascii : d.toNat < 0x80) (notLetter : d.isAlpha = false) : d ∈ host := by
  rcases Text.cut_cases '%' host with ⟨absent, -⟩ | ⟨name, zone, rfl, absent, -⟩
  · rw [lowerHost_of_notMem absent] at mem
    exact mem_of_mem_lower mem ascii notLetter
  · rw [lowerHost_append_cons absent] at mem
    rcases List.mem_append.1 mem with inName | inZone
    · exact List.mem_append_left _ (mem_of_mem_lower inName ascii notLetter)
    · exact List.mem_append_right _ inZone

theorem lowerHost_eq_lowerAddress {host : Text} (ascii : IsAscii (lowerHost host)) :
    lowerHost host = lowerAddress host := by
  rcases Text.cut_cases '%' host with ⟨absent, -⟩ | ⟨name, zone, rfl, absent, -⟩
  · rw [lowerHost_of_notMem absent] at ascii ⊢
    rw [lowerAddress_of_notMem absent, Text.lower_eq_map_of_ascii ascii]
  · rw [lowerHost_append_cons absent] at ascii ⊢
    rw [lowerAddress_append_cons absent,
      Text.lower_eq_map_of_ascii fun c mem => ascii c (List.mem_append_left _ mem)]

theorem lowerHost_lowerHost {host : Text} (ascii : IsAscii (lowerHost host)) :
    lowerHost (lowerHost host) = lowerHost host := by
  have noPercent {name : Text} (absent : '%' ∉ name) : '%' ∉ Text.lower name :=
    fun mem => absent (mem_of_mem_lower mem (by decide) (by decide))
  rcases Text.cut_cases '%' host with ⟨absent, -⟩ | ⟨name, zone, rfl, absent, -⟩
  · rw [lowerHost_of_notMem absent] at ascii ⊢
    rw [lowerHost_of_notMem (noPercent absent), Text.lower_lower_of_ascii ascii]
  · rw [lowerHost_append_cons absent] at ascii ⊢
    rw [lowerHost_append_cons (noPercent absent),
      Text.lower_lower_of_ascii fun c mem => ascii c (List.mem_append_left _ mem)]

/-! ## Hosts -/

/-- What is known of a host that has been read. Lower case and brackets are only pinned down where
the host is ASCII, as no other host can stand in an address. -/
structure IsHost (host : Text) : Prop where
  ne_nil : host ≠ []
  notMem_delimiter : ∀ c ∈ ['/', '?', '#', '@'], c ∉ host
  lowerHost_eq : IsAscii host → lowerHost host = host
  /-- Only what has stood in brackets holds a colon or an opening bracket. -/
  bracketed : '[' ∈ host ∨ ':' ∈ host →
    ']' ∉ host ∧ (IsAscii host → checkAddress host = .ok ())

/-- A host that has stood in brackets has been checked. -/
theorem bracketed_of_mem {authority : Text} (accepted : checkBrackets authority = .ok ())
    (mark : '[' ∈ (hostAndPort authority).1 ∨ ':' ∈ (hostAndPort authority).1) :
    ']' ∉ (hostAndPort authority).1 ∧ checkAddress (hostAndPort authority).1 = .ok () := by
  rcases Text.cut_cases '[' (hostInfo authority) with ⟨absent, eq⟩ | ⟨before, rest, whole, -, eq⟩
  · -- Without brackets the host ends before the first colon, and neither mark is left in it.
    have host : (hostAndPort authority).1 = (Text.cut ':' (hostInfo authority)).1 := by
      simp only [hostAndPort, eq]
    rw [host] at mark
    rcases mark with mem | mem
    · exact absurd (Text.mem_of_mem_cut_fst mem) absent
    · exact absurd mem (Text.notMem_cut_fst ':' _)
  · have host : (hostAndPort authority).1 = (Text.cut ']' rest).1 := by
      simp only [hostAndPort, eq]
    rw [host]
    refine ⟨Text.notMem_cut_fst ']' rest, ?_⟩
    have opening : '[' ∈ authority := by
      apply mem_hostInfo
      rw [whole]
      exact List.mem_append_right _ List.mem_cons_self
    rw [checkBrackets, if_neg fun none => none.1 opening] at accepted
    split at accepted
    · cases accepted
    · simp only [eq] at accepted
      split at accepted
      · cases accepted
      · split at accepted
        · cases accepted
        · exact accepted

theorem isHost_of_authority {authority : Text} (accepted : checkBrackets authority = .ok ())
    (ends : ∀ c ∈ ['/', '?', '#'], c ∉ authority) (nonempty : (hostAndPort authority).1 ≠ []) :
    IsHost (lowerHost (hostAndPort authority).1) := by
  refine ⟨?_, ?_, lowerHost_lowerHost, ?_⟩
  · rcases Text.cut_cases '%' (hostAndPort authority).1 with
      ⟨absent, -⟩ | ⟨name, zone, whole, absent, -⟩
    · rw [lowerHost_of_notMem absent]
      exact Text.lower_ne_nil nonempty
    · rw [whole, lowerHost_append_cons absent]
      exact List.append_ne_nil_of_right_ne_nil _ (List.cons_ne_nil _ _)
  · intro c isDelimiter mem
    have plain : ∀ d ∈ ['/', '?', '#', '@'], d.toNat < 0x80 ∧ d.isAlpha = false := by decide
    have parts : ∀ d ∈ ['/', '?', '#', '@'], d ∈ ['/', '?', '#'] ∨ d = '@' := by decide
    -- Lower-casing makes no delimiter, so one in the host would stand in the authority.
    have caseless := plain c isDelimiter
    have inInfo := mem_hostAndPort_fst (mem_of_mem_lowerHost mem caseless.1 caseless.2)
    rcases parts c isDelimiter with ending | rfl
    · exact ends c ending (mem_hostInfo inInfo)
    · exact notMem_at_hostInfo authority inInfo
  · intro mark
    have inHost : '[' ∈ (hostAndPort authority).1 ∨ ':' ∈ (hostAndPort authority).1 :=
      mark.imp (fun mem => mem_of_mem_lowerHost mem (by decide) (by decide))
        fun mem => mem_of_mem_lowerHost mem (by decide) (by decide)
    obtain ⟨closed, address⟩ := bracketed_of_mem accepted inHost
    refine ⟨fun mem => closed (mem_of_mem_lowerHost mem (by decide) (by decide)), fun ascii => ?_⟩
    rw [lowerHost_eq_lowerAddress ascii]
    exact checkAddress_lowerAddress address

/-- The host of a URI that can be read. -/
theorem isHost_of_split {t host : Text} {uri : Uri} (read : split t = .ok uri)
    (named : uri.host? = some host) : IsHost host := by
  obtain ⟨accepted, -, rfl⟩ := split_eq_ok_iff.1 read
  rw [host?_eq] at named
  split at named
  · cases named
  · next nonempty =>
    obtain rfl := Option.some.inj named
    exact isHost_of_authority accepted (fun c ends => notMem_splitAuthority ends) nonempty

end SyncedFile.Uri
