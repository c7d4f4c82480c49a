import Dialer.Proofs.Uri.Pieces

/-!
# Texts that cannot be encoded

A text becomes a URI by way of UTF-8, in which surrogates have no form.

* `Url.Unencodable` says of a text that it fails for this reason, with which error, and
  `Url.parseWith_eq_unencodable_iff` that parsing tells so. All that is read before comes first: the
  characters, the delimiters, the port and the host.
* A text without surrogates never fails so (`Url.Unencodable.any_isSurrogate`).
-/

namespace Dialer

open Uri

namespace Url

variable {α β : Type} {encode : HostEncoding} {s : Text} {parts : Parts} {e : EncodingError}
  {x : Except ParseError α} {f : α → Except ParseError β}

/-! ## Steps that fail otherwise -/

/-- The step does not fail for want of an encoding. -/
def Encodable (x : Except ParseError α) : Prop := ∀ e, x ≠ .error (.unencodable e)

theorem Encodable.bind (hx : Encodable x) (hf : ∀ a, Encodable (f a)) : Encodable (x >>= f) := by
  intro e failed
  cases x with
  | error reason => exact hx e (congrArg Except.error (Except.error.inj failed))
  | ok a => exact hf a e failed

/-- After a step that does not fail so, it is for the rest to do. -/
theorem Encodable.bind_eq_unencodable_iff (hx : Encodable x) :
    x >>= f = .error (.unencodable e) ↔ ∃ a, x = .ok a ∧ f a = .error (.unencodable e) := by
  cases x with
  | error reason =>
    exact iff_of_false (fun failed => hx e (congrArg Except.error (Except.error.inj failed))) nofun
  | ok a => simp [Bind.bind, Except.bind]

theorem encodable_authority (x : Except AuthorityError α) :
    Encodable (x.mapError ParseError.authority) := by
  intro e failed
  cases x <;> cases failed

theorem encodable_asciiHost (host : Text) : Encodable (asciiHost encode host) := by
  intro e failed
  unfold asciiHost at failed
  split at failed
  · cases failed
  · split at failed <;> cases failed

theorem encodable_checkComponent (component : Component) (s : Text) :
    Encodable (checkComponent component s) := by
  intro e failed
  unfold checkComponent at failed
  split at failed <;> cases failed

theorem Encodable.mapM {f : Text → Except ParseError Text} (hf : ∀ s, Encodable (f s))
    (o : Option Text) : Encodable (o.mapM f) := by
  cases o with
  | none => exact nofun
  | some s => exact (hf s).bind fun _ => nofun

theorem Encodable.forM {f : Text → Except ParseError Unit} (hf : ∀ s, Encodable (f s))
    (o : Option Text) : Encodable (o.forM f) := by
  cases o with
  | none => exact nofun
  | some s => exact hf s

/-! ## Components -/

/-- The components of a text in the order in which they are encoded. -/
def components (s : Text) (parts : Parts) : List Text :=
  (Authority.userInfo parts.authority).toList ++
    parts.path :: ((if hasQuery s then some parts.query else none).toList ++ [parts.fragment])

/-- A component fails to be encoded, or it is for the rest to do. -/
theorem asciiComponent_bind_eq_unencodable_iff {f : Text → Except ParseError α} {rest : List Text}
    (after : f (asciiForm s) = .error (.unencodable e) ↔ rest.findSome? encodingError? = some e) :
    asciiComponent s >>= f = .error (.unencodable e) ↔
      (s :: rest).findSome? encodingError? = some e := by
  rw [List.findSome?_cons, asciiComponent, encodeComponent]
  cases encodingError? s with
  | none => exact after
  | some e' => simp [Except.mapError, Bind.bind, Except.bind]

/-- The same of a component that may be missing. -/
theorem mapM_asciiComponent_bind_eq_unencodable_iff {o : Option Text}
    {f : Option Text → Except ParseError α} {rest : List Text}
    (after : f (o.map asciiForm) = .error (.unencodable e) ↔
      rest.findSome? encodingError? = some e) :
    o.mapM asciiComponent >>= f = .error (.unencodable e) ↔
      (o.toList ++ rest).findSome? encodingError? = some e := by
  cases o with
  | none => exact after
  | some s =>
    have step : (some s).mapM asciiComponent >>= f = asciiComponent s >>= fun t => f (some t) := by
      show (asciiComponent s >>= fun t => Except.ok (some t)) >>= f = _
      rw [bind_assoc]
      rfl
    rw [step]
    exact asciiComponent_bind_eq_unencodable_iff after

/-- The first component with surrogates fails. -/
theorem checkParts_eq_unencodable_iff :
    checkParts s parts = .error (.unencodable e) ↔
      (components s parts).findSome? encodingError? = some e := by
  refine mapM_asciiComponent_bind_eq_unencodable_iff (asciiComponent_bind_eq_unencodable_iff
    (mapM_asciiComponent_bind_eq_unencodable_iff (asciiComponent_bind_eq_unencodable_iff
      (iff_of_false ?_ nofun))))
  have checks : Encodable (do
      ((Authority.userInfo parts.authority).map asciiForm).forM (checkComponent .userInfo)
      checkComponent .path (asciiForm parts.path)
      (if hasQuery s then some (asciiForm parts.query) else none).forM (checkComponent .query)
      checkComponent .fragment (asciiForm parts.fragment)) :=
    (Encodable.forM (encodable_checkComponent _) _).bind fun _ =>
      (encodable_checkComponent _ _).bind fun _ =>
        (Encodable.forM (encodable_checkComponent _) _).bind fun _ => encodable_checkComponent _ _
  exact checks e

/-! ## Texts -/

/-- All is well with the text up to its host, and then one of its components holds surrogates. -/
def Unencodable (encode : HostEncoding) (s : Text) (e : EncodingError) : Prop :=
  s.any isIllegal = false ∧ escapesFit s = true ∧ ∃ parts port host,
    Parts.split s = .ok parts ∧ Authority.port parts.authority = .ok port ∧
    (Authority.host parts.authority).mapM (asciiHost encode) = .ok host ∧
    (components s parts).findSome? encodingError? = some e

/-- **Parsing fails for want of an encoding** exactly with the texts that have none. -/
theorem parseWith_eq_unencodable_iff :
    parseWith encode s = .error (.unencodable e) ↔ Unencodable encode s e := by
  cases legal : s.any isIllegal with
  | true => simp [parseWith_of_illegal legal, Unencodable, legal]
  | false =>
    cases fits : escapesFit s with
    | false => simp [parseWith_of_malformed legal fits, Unencodable, fits]
    | true =>
      cases split : Parts.split s with
      | error reason => simp [parseWith_of_unsplittable legal fits split, Unencodable, split]
      | ok parts =>
        have last (port : Option Nat) (host : Option Text) :
            (checkParts s parts >>= fun _ => return ofParts s parts port host) =
                .error (.unencodable e) ↔
              (components s parts).findSome? encodingError? = some e := by
          rw [← checkParts_eq_unencodable_iff]
          cases checkParts s parts <;> simp [bind, Except.bind, pure, Except.pure]
        rw [parseWith_of_split legal fits split,
          (encodable_authority _).bind_eq_unencodable_iff]
        simp only [(Encodable.mapM encodable_asciiHost _).bind_eq_unencodable_iff, last,
          mapError_eq_ok]
        simp [Unencodable, legal, fits, split, exists_and_left]

/-- The components of a text without surrogates have none. -/
theorem plain_of_mem_components {p : Pieces} (plain : p.text.any CodePoint.isSurrogate = false)
    {t : Text} (mem : t ∈ components p.text p.parts) : t.any CodePoint.isSurrogate = false := by
  obtain ⟨authority, path, query, fragment⟩ := Pieces.any_of_text plain
  simp only [components, List.mem_append, Option.mem_toList, List.mem_cons, List.not_mem_nil,
    or_false] at mem
  rcases mem with user | rfl | present | rfl
  · exact List.any_eq_false.mpr fun c hc =>
      List.any_eq_false.mp (any_getD authority) c (userInfo_subset _ t user hc)
  · exact path
  · split at present
    next => exact Option.some.inj present ▸ any_getD query
    next => cases present
  · exact any_getD fragment

/-- A text that cannot be encoded has a surrogate. -/
theorem Unencodable.any_isSurrogate (h : Unencodable encode s e) :
    s.any CodePoint.isSurrogate = true := by
  obtain ⟨legal, -, parts, -, -, split, -, -, failed⟩ := h
  obtain ⟨p, delimited, rfl⟩ := Pieces.exists_pieces s
  obtain ⟨rfl, -⟩ := delimited.eq_of_split legal split
  obtain ⟨t, mem, found⟩ := List.exists_of_findSome?_eq_some failed
  refine Bool.eq_true_of_not_eq_false fun plain => ?_
  have none : encodingError? t = none :=
    encodingError?_eq_none_iff.mpr (plain_of_mem_components plain mem)
  rw [none] at found
  cases found

end Url

end Dialer
