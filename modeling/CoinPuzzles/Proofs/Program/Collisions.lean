import CoinPuzzles.Proofs.Program.HashBinding

/-!
# Proofs/Program/Collisions — two trees of one hash show a collision

`clash?` walks down two trees at once and stops at the first place where their messages differ.  It
finds none exactly if the trees are equal (`clash?_eq_none_iff`); if the hashes of the trees are
equal, so are those of all pairs of parts that it passes, and the messages it finds have one digest
(`collides_of_clash?`).  `hashing` keeps what is hashed on the way to a tree hash: the messages of
the tree (`hashedMessages_perm`).  Main statement: a hash binds its tree (`treeHash_binding`).
-/

namespace CoinPuzzles

/-- Two different messages have one digest. -/
structure Sha256.Collides (m n : Bytes) : Prop where
  ne : m ≠ n
  digest_eq : digest m = digest n

namespace Program

/-! ## The messages that are hashed -/

/-- The digest of a message, which is added to those hashed before. -/
def hashed (message : Bytes) (before : List Bytes) : Bytes × List Bytes :=
  (Sha256.digest message, before ++ [message])

/-- The hash of a tree, with the messages that are hashed on the way. -/
def hashing : Program → List Bytes → Bytes × List Bytes
  | atom b, before => hashed (1 :: b) before
  | pair p q, before =>
    let (left, before) := p.hashing before
    let (right, before) := q.hashing before
    hashed (2 :: (left ++ right)) before

/-- The messages that are hashed for a tree, in the order they are. -/
def hashedMessages (p : Program) : List Bytes := (p.hashing []).2

theorem exists_hashing_eq : ∀ (p : Program) (before : List Bytes), ∃ own,
    p.hashing before = (p.merkle, before ++ own) ∧ own.Perm p.messages
  | atom b, before => ⟨[1 :: b], rfl, .refl _⟩
  | pair p q, before => by
    obtain ⟨left, hleft, hpermLeft⟩ := exists_hashing_eq p before
    obtain ⟨right, hright, hpermRight⟩ := exists_hashing_eq q (before ++ left)
    refine ⟨left ++ right ++ [message (pair p q)], ?_, ?_⟩
    · simp only [hashing, hleft, hright, hashed, message, merkle, List.append_assoc]
    · exact (List.perm_append_singleton _ _).trans ((hpermLeft.append hpermRight).cons _)

/-- **The messages of a tree are those that are hashed for it**, up to their order. -/
theorem hashedMessages_perm (p : Program) : p.hashedMessages.Perm p.messages := by
  obtain ⟨own, hhashing, hperm⟩ := p.exists_hashing_eq []
  rwa [hashedMessages, hhashing]

/-! ## The place where two trees differ -/

/-- The first two messages, on the way down both trees, that differ. -/
def clash? : Program → Program → Option (Bytes × Bytes)
  | pair p₁ p₂, pair q₁ q₂ =>
    if message (pair p₁ p₂) = message (pair q₁ q₂) then (clash? p₁ q₁).or (clash? p₂ q₂)
    else some (message (pair p₁ p₂), message (pair q₁ q₂))
  | p, q => if p.message = q.message then none else some (p.message, q.message)

/-- Atoms and pairs are told apart by the first byte of their messages. -/
theorem message_atom_ne_pair (b : Bytes) (p q : Program) :
    message (atom b) ≠ message (pair p q) :=
  fun h => absurd (List.cons.inj h).1 (by decide)

/-- Both hashes in the message of a pair have 32 bytes, so it splits in one place. -/
theorem message_pair_inj {p₁ p₂ q₁ q₂ : Program}
    (h : message (pair p₁ p₂) = message (pair q₁ q₂)) :
    p₁.merkle = q₁.merkle ∧ p₂.merkle = q₂.merkle :=
  List.append_inj (List.cons.inj h).2 (by rw [length_merkle, length_merkle])

theorem clash?_pair (p₁ p₂ q₁ q₂ : Program) : clash? (pair p₁ p₂) (pair q₁ q₂) =
    if message (pair p₁ p₂) = message (pair q₁ q₂) then (clash? p₁ q₁).or (clash? p₂ q₂)
    else some (message (pair p₁ p₂), message (pair q₁ q₂)) := rfl

/-- **No messages differ exactly if the trees are equal.** -/
theorem clash?_eq_none_iff {p q : Program} : clash? p q = none ↔ p = q := by
  induction p generalizing q with
  | atom b =>
    cases q with
    | atom c => simp [clash?, message]
    | pair q₁ q₂ => simp [clash?, message_atom_ne_pair]
  | pair p₁ p₂ ih₁ ih₂ =>
    cases q with
    | atom c => simp [clash?, (message_atom_ne_pair c p₁ p₂).symm]
    | pair q₁ q₂ =>
      rw [clash?_pair, pair.injEq, ← ih₁, ← ih₂, ← Option.or_eq_none_iff]
      split
      · rfl
      · next hmessage =>
        -- equal halves have one message, so halves that differ are found below as well
        refine iff_of_false (Option.some_ne_none _) fun h => hmessage ?_
        obtain ⟨h₁, h₂⟩ := Option.or_eq_none_iff.1 h
        rw [ih₁.1 h₁, ih₂.1 h₂]

/-- **Messages of two trees of one hash collide where they first differ.** -/
theorem collides_of_clash? {p q : Program} {m n : Bytes} (h : clash? p q = some (m, n))
    (hhash : p.merkle = q.merkle) : m ∈ p.messages ∧ n ∈ q.messages ∧ Sha256.Collides m n := by
  have hown {p q : Program} (hhash : p.merkle = q.merkle) (hne : p.message ≠ q.message) :
      Sha256.Collides p.message q.message :=
    ⟨hne, by rwa [← merkle_eq_digest, ← merkle_eq_digest]⟩
  induction p generalizing q with
  | atom b =>
    obtain ⟨hne, hmn⟩ : (atom b).message ≠ q.message ∧ ((atom b).message, q.message) = (m, n) := by
      simpa [clash?] using h
    obtain ⟨rfl, rfl⟩ := Prod.mk.inj hmn
    exact ⟨message_mem_messages _, message_mem_messages _, hown hhash hne⟩
  | pair p₁ p₂ ih₁ ih₂ =>
    cases q with
    | atom c =>
      have hne := (message_atom_ne_pair c p₁ p₂).symm
      obtain ⟨rfl, rfl⟩ : (pair p₁ p₂).message = m ∧ (atom c).message = n := by
        simpa [clash?, hne] using h
      exact ⟨message_mem_messages _, message_mem_messages _, hown hhash hne⟩
    | pair q₁ q₂ =>
      rw [clash?_pair] at h
      split at h
      · next hmessage =>
        obtain ⟨h₁, h₂⟩ := message_pair_inj hmessage
        obtain h | ⟨-, h⟩ := Option.or_eq_some_iff.1 h
        · obtain ⟨hm, hn, hcollides⟩ := ih₁ h h₁
          exact ⟨List.mem_cons_of_mem _ (List.mem_append_left _ hm),
            List.mem_cons_of_mem _ (List.mem_append_left _ hn), hcollides⟩
        · obtain ⟨hm, hn, hcollides⟩ := ih₂ h h₂
          exact ⟨List.mem_cons_of_mem _ (List.mem_append_right _ hm),
            List.mem_cons_of_mem _ (List.mem_append_right _ hn), hcollides⟩
      · next hne =>
        obtain ⟨rfl, rfl⟩ := Prod.mk.inj (Option.some.inj h)
        exact ⟨message_mem_messages _, message_mem_messages _, hown hhash hne⟩

/-! ## A hash and its tree -/

/-- **A hash binds its tree.**  Two trees that have one hash are one tree, or two different
messages, one hashed for each tree, have one digest.  A tree that has a hash has one at each of its
parts. -/
theorem treeHash_binding :
    (∀ {p q : Program} {h : Bytes}, p.treeHash = .ok h → q.treeHash = .ok h →
      p = q ∨ ∃ m ∈ p.hashedMessages, ∃ n ∈ q.hashedMessages, Sha256.Collides m n) ∧
    ∀ {s p : Program} {h : Bytes}, p.treeHash = .ok h → Subtree s p →
      ∃ h', s.treeHash = .ok h' := by
  refine ⟨fun {p q h} hp hq => ?_, fun hp hs => ⟨_, hs.treeHash_eq hp⟩⟩
  obtain ⟨-, hp⟩ := treeHash_eq_ok_iff.1 hp
  obtain ⟨-, hq⟩ := treeHash_eq_ok_iff.1 hq
  cases hclash : clash? p q with
  | none => exact .inl (clash?_eq_none_iff.1 hclash)
  | some found =>
    obtain ⟨hm, hn, hcollides⟩ := collides_of_clash? hclash (hp.trans hq.symm)
    exact .inr ⟨_, (hashedMessages_perm p).mem_iff.2 hm, _, (hashedMessages_perm q).mem_iff.2 hn,
      hcollides⟩

/-- A list of two atoms. -/
def sevenEight : Program := ofList [atom [7], atom [8]]

/-- The list and the pairs it is made of have one hash, and their first part has one. -/
theorem treeHash_binding_sevenEight :
    (sevenEight.treeHash = .ok sevenEight.merkle ∧
      (pair (atom [7]) (pair (atom [8]) nil)).treeHash = .ok sevenEight.merkle ∧
      (sevenEight = pair (atom [7]) (pair (atom [8]) nil) ∨
        ∃ m ∈ sevenEight.hashedMessages,
          ∃ n ∈ (pair (atom [7]) (pair (atom [8]) nil)).hashedMessages, Sha256.Collides m n)) ∧
    Subtree (atom [7]) sevenEight ∧ ∃ h, (atom [7]).treeHash = .ok h := by
  have hlist : sevenEight.treeHash = .ok sevenEight.merkle :=
    treeHash_eq_ok_iff.2 ⟨by decide, rfl⟩
  have hpairs : (pair (atom [7]) (pair (atom [8]) nil)).treeHash = .ok sevenEight.merkle :=
    treeHash_eq_ok_iff.2 ⟨by decide, rfl⟩
  have hpart : Subtree (atom [7]) sevenEight := .left _ (.refl _)
  exact ⟨⟨hlist, hpairs, treeHash_binding.1 hlist hpairs⟩, hpart, treeHash_binding.2 hlist hpart⟩

end Program

end CoinPuzzles
