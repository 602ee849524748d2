import ContextualQuery.Proofs.Parser.Continuation
import ContextualQuery.Proofs.Parser.Outcome

/-!
# Rejections are final

Once tokens are rejected because of a feature, they are rejected with the same error whatever
follows them; nothing is tried in place of the feature, and no look behind the end of the tokens
could have led elsewhere. The token at fault is found where the tokens before it still fit: they can
be completed to a query that is accepted if every modifier name is allowed. Only a prefix assignment
is not rejected at the token at fault, its mark, but at the term behind it.
-/

namespace ContextualQuery

variable {options : Options} {tokens front : List Token} {next : Standing} {place : Nat}
  {feature : Feature} {culprit : Token}

/-- Tokens that fit from the start of a query go on as the place they lead to says, if every
modifier name is allowed. -/
theorem fits_of_walk (walked : Standing.walk options ⟨.query, 0⟩ front = some next) :
    next.Fits (options.withModifierNames .any) front := by
  have start : Standing.Fits (options.withModifierNames .any) ⟨.query, 0⟩ [] := begins_nil
  have comparitors : ∀ comparitor : Token, comparitor.IsComparitor options →
      comparitor.IsComparitor (options.withModifierNames .any) := fun _ supported => supported
  simpa using start.walk comparitors rfl walked

/-- Tokens that are rejected are split at the token at fault. The tokens before it are not rejected
and can be completed, and it needs at most one token behind it to be rejected. -/
theorem exists_split_of_rejected
    (rejected : Fate.ofTokens options tokens = .rejected place feature culprit) :
    ∃ before behind rest, ∃ reached : Standing,
      tokens = before ++ culprit :: behind ++ rest ∧ behind.length ≤ 1 ∧
      Fate.ofTokens options (before ++ culprit :: behind) = .rejected place feature culprit ∧
      (∀ place feature culprit,
        Fate.ofTokens options before ≠ .rejected place feature culprit) ∧
      Derives (options.withModifierNames .any) (before ++ reached.completion) := by
  obtain ⟨front, token, rest, next, rfl, rfl, walked, ends⟩ :=
    Standing.exists_walk_of_rejected rejected
  obtain ⟨before, behind, reached, split, short, derives⟩ :=
    (fits_of_walk walked).derives_of_rejected ends
  refine ⟨before, behind, rest, reached, ?_, short, ?_, ?_, derives⟩
  · rw [← split]
    simp
  · rw [← split, Fate.ofTokens, Standing.fate_append walked, Standing.fate_rejected ends]
  · -- a rejection of the tokens before would be one of all those that fit
    intro place feature culprit early
    obtain ⟨more, rfl⟩ : before <+: front := by
      refine List.prefix_of_prefix_length_le ⟨_, split.symm⟩ (List.prefix_append front [token]) ?_
      have size := congrArg List.length split
      simp only [List.length_append, List.length_cons, List.length_nil] at size
      omega
    have late := Standing.fate_append_of_rejected early more
    rw [Standing.fate_of_walk walked] at late
    simp at late

/-- A rejection is final: the same error ends the reading whatever follows. The token that the error names
is one of the tokens. Those before it are not rejected, and can be completed to a query that is accepted
with the same comparitors and any modifier names; with it and at most one token more, they are rejected.

Proof: the rejection is that of the walk over the tokens, which stops at the token at fault or at the one
behind it. -/
theorem unsupported_final (options : Options) (tokens : List Token) (error : UnsupportedError)
    (unsupported : (Reading.ofTokens options tokens).outcome = .error (.unsupported error)) :
    (∀ rest, (Reading.ofTokens options (tokens ++ rest)).outcome = .error (.unsupported error)) ∧
      ∃ index token, tokens[index]? = some token ∧ error.token? = some token.text ∧
        (∀ earlier, (Reading.ofTokens options (tokens.take index)).outcome ≠
          .error (.unsupported earlier)) ∧
        (Reading.ofTokens options (tokens.take (index + 2))).outcome =
          .error (.unsupported error) ∧
        ∃ rest tree, (∀ token ∈ rest, Token.IsLexeme token.text.toList) ∧
          (Reading.ofTokens (options.withModifierNames .any)
            (tokens.take index ++ rest)).outcome = .ok tree := by
  obtain ⟨place, feature, culprit, rejected, rfl⟩ := exists_rejected_of_unsupported unsupported
  have rejectedWith : ∀ front rest,
      Fate.ofTokens options front = .rejected place feature culprit →
      (Reading.ofTokens options (front ++ rest)).outcome =
        .error (.unsupported (.ofFeature feature culprit.text)) := fun _ rest early =>
    unsupported_of_rejected (Standing.fate_append_of_rejected early rest)
  refine ⟨fun rest => rejectedWith tokens rest rejected, ?_⟩
  obtain ⟨before, behind, rest, reached, rfl, short, early, unrejected, chain, formed, derived⟩ :=
    exists_split_of_rejected rejected
  have front : (before ++ culprit :: behind ++ rest).take before.length = before := by simp
  refine ⟨before.length, culprit, by simp, rfl, ?_, ?_, reached.completion, chain.tree,
    reached.isLexeme_completion, ?_⟩
  · intro earlier tooEarly
    rw [front] at tooEarly
    obtain ⟨_, _, _, rejectedEarlier, -⟩ := exists_rejected_of_unsupported tooEarly
    exact unrejected _ _ _ rejectedEarlier
  · obtain ⟨more, whole⟩ : before ++ culprit :: behind <+:
        (before ++ culprit :: behind ++ rest).take (before.length + 2) := by
      refine List.prefix_take_iff.mpr ⟨List.prefix_append _ _, ?_⟩
      simpa using short
    rw [← whole]
    exact rejectedWith _ more early
  · rw [front, ← derived]
    exact ofTokens_of_chain formed

/-- A modifier that is not understood is rejected inside of a group that is still open. -/
theorem unsupported_final_modifier :
    ∃ tokens : List Token, ∃ error : UnsupportedError,
      tokens = [⟨"("⟩, ⟨"a"⟩, ⟨"or"⟩, ⟨"b"⟩, ⟨"="⟩, ⟨"/"⟩, ⟨"fuzzy"⟩] ∧
      error = .ofFeature (.modifier "fuzzy") "fuzzy" ∧
      (Reading.ofTokens Options.standard tokens).outcome = .error (.unsupported error) ∧
      (∀ rest, (Reading.ofTokens Options.standard (tokens ++ rest)).outcome =
        .error (.unsupported error)) ∧
      ∃ index token, tokens[index]? = some token ∧ error.token? = some token.text ∧
        (∀ earlier, (Reading.ofTokens Options.standard (tokens.take index)).outcome ≠
          .error (.unsupported earlier)) ∧
        (Reading.ofTokens Options.standard (tokens.take (index + 2))).outcome =
          .error (.unsupported error) ∧
        ∃ rest tree, (∀ token ∈ rest, Token.IsLexeme token.text.toList) ∧
          (Reading.ofTokens (Options.standard.withModifierNames .any)
            (tokens.take index ++ rest)).outcome = .ok tree := by
  have rejected : Fate.ofTokens Options.standard
      [⟨"("⟩, ⟨"a"⟩, ⟨"or"⟩, ⟨"b"⟩, ⟨"="⟩, ⟨"/"⟩, ⟨"fuzzy"⟩] =
      .rejected 6 (.modifier "fuzzy") ⟨"fuzzy"⟩ := by decide +kernel
  have unsupported := unsupported_of_rejected rejected
  exact ⟨_, _, rfl, rfl, unsupported, unsupported_final _ _ _ unsupported⟩

end ContextualQuery
