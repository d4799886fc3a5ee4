import PatternLint.Proofs.Token.Tiling

/-!
# Tokens inside and outside of classes

Inside a class the scanner reads other tokens than outside, and which of both it does is a bit
of its mode. The bit can be told from the tokens that were read before: it is set by the token
that opens a class and cleared by the one that closes it, and by nothing else, since neither
quoted text nor anything that is skipped has a say in it. So what is known of tokens in a mode
(`Lexeme`) is known of tokens behind others, with no mode.
-/

namespace PatternLint

namespace TokenKind

/-- Whether a token is one that only classes have, or the one that closes them. -/
def isClassOnly : TokenKind → Bool
  | .classClose | .classHyphen | .classIntersection | .classSubtraction | .posixClass .. => true
  | _ => false

/-- Whether a token is one that classes have: a character, a shorthand or one that only they
have. -/
def isClassItem : TokenKind → Bool
  | .literal _ | .escaped .. | .shorthand .. => true
  | k => k.isClassOnly

/-- Whether a class is open behind a token, from whether one was open before it. -/
def within (inside : Bool) : TokenKind → Bool
  | .classOpen _ => true
  | .classClose => false
  | _ => inside

theorem within_of_ne {k : TokenKind} (hopen : ∀ negated, k ≠ .classOpen negated)
    (hclose : k ≠ .classClose) (inside : Bool) : k.within inside = inside := by
  cases k with
  | classOpen negated => exact absurd rfl (hopen negated)
  | classClose => exact absurd rfl hclose
  | _ => rfl

end TokenKind

namespace Token

/-! ### Tokens and modes -/

/-- Whether a class is open behind some tokens, from whether one was open before them. -/
def within (inside : Bool) (ts : List Token) : Bool :=
  ts.foldl (fun inside t => t.kind.within inside) inside

@[simp] theorem within_nil (inside : Bool) : within inside [] = inside := rfl

@[simp] theorem within_cons (inside : Bool) (t : Token) (ts : List Token) :
    within inside (t :: ts) = within (t.kind.within inside) ts := rfl

theorem within_append (inside : Bool) (ts us : List Token) :
    within inside (ts ++ us) = within (within inside ts) us := List.foldl_append

variable {ctx : Context} {m : Mode} {text cs : List Char} {k : TokenKind} {offset : Nat}
  {before mid after : List Token} {o t : Token}

/-- The mode of the scanner goes into a class and out of it as the tokens say. -/
theorem Lexeme.isInClass_advance (hl : Lexeme ctx m text k) :
    (m.advance k).isInClass = k.within m.isInClass := by
  by_cases hp : m.place = .outside
  · obtain ⟨hk, hadvance⟩ := hl.outside hp
    rw [Mode.isInClass_of_outside hp]
    by_cases hopen : ∃ negated, k = .classOpen negated
    · obtain ⟨negated, rfl⟩ := hopen
      rw [hadvance]
      rfl
    · have hne : ∀ negated, k ≠ .classOpen negated := fun negated he => hopen ⟨negated, he⟩
      have hclose : k ≠ .classClose := by
        rintro rfl
        rcases hk with ⟨v, hv⟩ | hk
        · cases hv
        · exact hk
      rw [Mode.isInClass_of_outside (m.advance_place k hp hne),
        TokenKind.within_of_ne hne hclose]
  · obtain ⟨hk, hadvance⟩ := hl.inside hp
    have hinside : m.isInClass = true := bne_iff_ne.mpr hp
    rw [hadvance, hinside]
    by_cases hclose : k = .classClose
    · subst hclose
      rfl
    · have hne : ∀ negated, k ≠ .classOpen negated := by
        rintro negated rfl
        rcases hk with ⟨v, hv⟩ | ⟨fresh, hk⟩
        · cases hv
        · exact hk
      rw [TokenKind.within_of_ne hne hclose, Mode.classAfter, if_neg hclose]
      rfl

/-- What is skipped leaves the scanner inside a class or outside. -/
theorem isInClass_skip {m' : Mode} {c : Char} {rest : List Char}
    (hp : scan ctx m c cs = .ok ⟨none, m', rest⟩) : m'.isInClass = m.isInClass := by
  rw [Mode.isInClass, Mode.isInClass, Bool.eq_iff_iff]
  simp [(scan_skip hp).2.2]

/-- A token among others was read in a mode that is inside a class if the tokens before it say
so. -/
theorem Scanned.lexeme_at (h : Scanned ctx m offset cs (before ++ t :: after))
    (hk : t.kind ≠ .eof) :
    ∃ m', m'.isInClass = within m.isInClass before ∧ Lexeme ctx m' t.text t.kind := by
  generalize hall : before ++ t :: after = all at h
  induction h generalizing before with
  | done m offset =>
      cases before with
      | nil =>
          obtain ⟨rfl, -⟩ := List.cons.inj hall
          exact absurd rfl hk
      | cons b before => simp at hall
  | skip hp _ ih =>
      obtain ⟨m'', hinside, hl⟩ := ih hall
      exact ⟨m'', isInClass_skip hp ▸ hinside, hl⟩
  | @token m m' offset c pre rest k all hp _ ih =>
      obtain ⟨hl, rfl⟩ := scan_lexeme hp
      cases before with
      | nil =>
          obtain ⟨rfl, -⟩ := List.cons.inj hall
          exact ⟨m, rfl, hl⟩
      | cons b before =>
          obtain ⟨rfl, hrest⟩ := List.cons.inj hall
          obtain ⟨m'', hinside, hl'⟩ := ih hrest
          exact ⟨m'', by rw [hinside, within_cons, hl.isInClass_advance], hl'⟩

/-- The token that ends the text stands before no other. -/
theorem Scanned.ne_eof (h : Scanned ctx m offset cs (before ++ t :: after)) :
    ∀ u ∈ before, u.kind ≠ .eof := by
  generalize hall : before ++ t :: after = all at h
  induction h generalizing before with
  | done m offset =>
      cases before with
      | nil => exact List.forall_mem_nil _
      | cons b before => simp at hall
  | skip _ _ ih => exact ih hall
  | token hp _ ih =>
      cases before with
      | nil => exact List.forall_mem_nil _
      | cons b before =>
          obtain ⟨rfl, hrest⟩ := List.cons.inj hall
          have hl : Lexeme _ _ _ _ := (scan_lexeme hp).1
          exact List.forall_mem_cons.mpr ⟨hl.ne_eof, ih hrest⟩

/-! ### Classes among the tokens -/

/-- Behind a token that opens a class and tokens that do not close it, the class is open. -/
theorem within_of_open {inside negated : Bool} (ho : o.kind = .classOpen negated)
    (hmid : ∀ u ∈ mid, u.kind ≠ .classClose) : within inside (before ++ o :: mid) = true := by
  have hstay : ∀ us : List Token, (∀ u ∈ us, u.kind ≠ .classClose) → within true us = true := by
    intro us hus
    induction us with
    | nil => rfl
    | cons u us ih =>
        obtain ⟨hu, hus⟩ := List.forall_mem_cons.mp hus
        have hsame : u.kind.within true = true := by
          cases hk : u.kind with
          | classClose => exact absurd hk hu
          | _ => rfl
        rw [within_cons, hsame, ih hus]
  rw [within_append, within_cons, ho]
  exact hstay mid hmid

/-- Where a class is open, the tokens before have one that opened it and none since then that
closed it. -/
theorem exists_open_of_within {ts : List Token} (h : within false ts = true) :
    ∃ pre o mid negated, ts = pre ++ o :: mid ∧ o.kind = .classOpen negated ∧
      ∀ u ∈ mid, u.kind ≠ .classClose := by
  induction ts using List.reverseRecOn with
  | nil => cases h
  | append_singleton ts t ih =>
      rw [within_append, within_cons, within_nil] at h
      by_cases hopen : ∃ negated, t.kind = .classOpen negated
      · obtain ⟨negated, hk⟩ := hopen
        exact ⟨ts, t, [], negated, rfl, hk, List.forall_mem_nil _⟩
      · have hclose : t.kind ≠ .classClose := by
          intro hk
          rw [hk] at h
          cases h
        rw [TokenKind.within_of_ne (fun negated hk => hopen ⟨negated, hk⟩) hclose] at h
        obtain ⟨pre, o, mid, negated, rfl, hk, hmid⟩ := ih h
        refine ⟨pre, o, mid ++ [t], negated, by simp, hk, ?_⟩
        exact List.forall_mem_append.mpr ⟨hmid, List.forall_mem_singleton.mpr hclose⟩

/-- What is read inside a class is an item of it. -/
theorem Lexeme.isClassItem (hl : Lexeme ctx m text k) (hm : m.isInClass = true) :
    k.isClassItem = true := by
  rcases (hl.inside (bne_iff_ne.mp hm)).1 with ⟨v, rfl⟩ | ⟨fresh, hk⟩
  · rfl
  · cases k with
    | literal | escaped | shorthand | classClose | classHyphen | classIntersection
    | classSubtraction | posixClass => rfl
    | _ => exact hk.elim

/-- What only classes have is read inside a class. -/
theorem Lexeme.isInClass (hl : Lexeme ctx m text k) (hk : k.isClassOnly = true) :
    m.isInClass = true := by
  by_contra hm
  have hp : m.place = .outside := by
    simpa [Mode.isInClass] using hm
  rcases (hl.outside hp).1 with ⟨v, rfl⟩ | hl
  · cases hk
  · cases k with
    | classClose | classHyphen | classIntersection | classSubtraction | posixClass => exact hl
    | _ => cases hk

theorem Lexeme.isClassOnly_eq_false (hl : Lexeme ctx m text k) (hm : m.isInClass = false) :
    k.isClassOnly = false := by
  rw [← Bool.not_eq_true]
  intro hk
  rw [hl.isInClass hk] at hm
  cases hm

/-- Tokens of which those that only classes have stand in classes, and in classes none but those
that classes have. -/
structure Contained (ts : List Token) : Prop where
  opened : ∀ (before : List Token) (t : Token) (after : List Token), ts = before ++ t :: after →
    t.kind.isClassOnly = true →
    ∃ pre o mid negated, before = pre ++ o :: mid ∧ o.kind = .classOpen negated ∧
      ∀ u ∈ mid, u.kind ≠ .classClose ∧ u.kind ≠ .eof
  inside : ∀ (pre : List Token) (o : Token) (mid : List Token) (t : Token) (after : List Token)
    (negated : Bool), ts = pre ++ o :: (mid ++ t :: after) → o.kind = .classOpen negated →
    (∀ u ∈ mid, u.kind ≠ .classClose) → t.kind = .eof ∨ t.kind.isClassItem = true

theorem Scanned.contained {ts : List Token} (h : Scanned ctx m offset cs ts)
    (hm : m.isInClass = false) : Contained ts := by
  constructor
  · rintro before t after rfl hk
    obtain ⟨m', hinside, hl⟩ := h.lexeme_at (by rintro he; rw [he] at hk; cases hk)
    have hin := hl.isInClass hk
    rw [hinside, hm] at hin
    obtain ⟨pre, o, mid, negated, rfl, ho, hmid⟩ := exists_open_of_within hin
    refine ⟨pre, o, mid, negated, rfl, ho, fun u hu => ⟨hmid u hu, h.ne_eof u ?_⟩⟩
    simp [hu]
  · rintro pre o mid t after negated rfl ho hmid
    by_cases hk : t.kind = .eof
    · exact .inl hk
    · have hts : pre ++ o :: (mid ++ t :: after) = (pre ++ o :: mid) ++ t :: after := by simp
      obtain ⟨m', hinside, hl⟩ := (hts ▸ h).lexeme_at hk
      exact .inr (hl.isClassItem (hinside.trans (within_of_open ho hmid)))

end Token

end PatternLint
