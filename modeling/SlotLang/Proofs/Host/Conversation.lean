import Mathlib.Data.List.DropRight
import SlotLang.Host.Prompt
import SlotLang.Proofs.Host.Reset

/-!
# Conversations with a prompt

A prompt answers one line after the other. Blank lines, requests for help or for the global names,
unknown commands and texts that are no programs leave its session as it was. Each of them can be
left out of a conversation, and only the reply to it goes missing. A line that quits is the last one
that is read.

A reply also depends on the past only through the programs that were read since the last reset. The
reset leaves a session without global names, whatever there was before, and from there on the same
programs lead to sessions that show the same.
-/

namespace SlotLang

/-- The same message, but for which of several equally near names a failure offers. -/
inductive Message.SaysTheSame : Message → Message → Prop where
  /-- Any message, if it is the same. -/
  | same (message : Message) : SaysTheSame message message
  /-- A failure, worded as `Session.SameFailure` admits. -/
  | failure {failure failure' : HostError} (same : Session.SameFailure failure failure') :
      SaysTheSame (.err (failure.display ++ "\n")) (.err (failure'.display ++ "\n"))

/-- Messages say the same as themselves, one by one. -/
theorem Message.forall₂_saysTheSame (messages : List Message) :
    List.Forall₂ SaysTheSame messages messages :=
  List.forall₂_same.mpr fun message _ => .same message

/-! ## Sessions that get the same inputs -/

namespace Session

variable {bound bound' : Nat} {arrays objects : Matching} {older older' : List String}
  {session session' last last' : Session}

/-- A larger bound does not change an answer. It may only give one where the smaller bound gave
none. -/
theorem eval_of_le (enough : bound ≤ bound') {input : String}
    {answer : Except HostError Value × Session}
    (answered : session.eval bound input = some answer) :
    session.eval bound' input = some answer := by
  unfold Session.eval at answered ⊢
  cases decoded : Stmt.decode input with
  | error failure => simpa [decoded] using answered
  | ok program =>
    simp only [decoded] at answered ⊢
    have ended : runIn session.settings bound program session.state ≠ .interrupted := by
      intro stopped
      simp [stopped] at answered
    have same : runIn session.settings bound' program session.state =
        runIn session.settings bound program session.state := eval_eq_of_le enough ended
    rw [same]
    exact answered

/-- Only the program of a text matters: encoded again, in whatever layout, it gets the same
answer. -/
theorem eval_encode {text : String} {program : Stmt} (read : Stmt.ofText? text = some program) :
    session.eval bound program.encode = session.eval bound text := by
  have decoded : Stmt.decode text = .ok program := by
    cases answer : Stmt.decode text with
    | error failure => simp [Stmt.ofText?_of_error answer] at read
    | ok other => rw [Option.some.inj ((Stmt.ofText?_of_ok answer).symm.trans read)]
  unfold Session.eval
  rw [decoded, Stmt.decode_of_spells program.spells_encode]

/-- Texts may also be taken up at the end: the last one is answered in the session that the others
lead to. Conversations are followed from their end because what matters is the last reset. -/
theorem evalAll_concat {inputs : List String} {input : String} {exchanges : List Exchange}
    {answer : Except HostError Value} {middle : Session}
    (answered : session.evalAll bound inputs = some (exchanges, middle))
    (next : middle.eval bound input = some (answer, last)) :
    session.evalAll bound (inputs ++ [input]) = some (exchanges ++ [⟨input, answer⟩], last) := by
  induction inputs generalizing session exchanges with
  | nil =>
    cases answered
    exact evalAll_cons_eq_some.mpr ⟨answer, last, [], next, rfl, rfl⟩
  | cons first rest inductionHypothesis =>
    obtain ⟨firstAnswer, second, others, firstAnswered, later, rfl⟩ :=
      evalAll_cons_eq_some.mp answered
    exact evalAll_cons_eq_some.mpr
      ⟨firstAnswer, second, _, firstAnswered, inductionHypothesis later, rfl⟩

/-- Sessions that hold the same still do so after the same inputs, within whatever bounds these are
answered. -/
theorem Alike.evalAll {inputs : List String} {exchanges exchanges' : List Exchange}
    (alike : Alike (leftBehind arrays objects older older') session session')
    (answered : session.evalAll bound inputs = some (exchanges, last))
    (answered' : session'.evalAll bound' inputs = some (exchanges', last')) :
    Alike (leftBehind arrays objects older older') last last' := by
  induction inputs generalizing session session' exchanges exchanges' with
  | nil =>
    cases answered
    cases answered'
    exact alike
  | cons input rest inductionHypothesis =>
    obtain ⟨_, next, _, first, later, _⟩ := evalAll_cons_eq_some.mp answered
    obtain ⟨_, next', _, first', later', _⟩ := evalAll_cons_eq_some.mp answered'
    have answers := alike.eval (max bound bound') input
    rw [eval_of_le (Nat.le_max_left _ _) first, eval_of_le (Nat.le_max_right _ _) first']
      at answers
    cases answers with
    | some answers =>
      cases answers with
      | ok _ alike | error _ alike => exact inductionHypothesis alike later later'

/-- After a reset sessions still hold the same. Their global scopes then bind nothing, so it does
not matter what they bound before. -/
theorem Alike.reset (alike : Alike (leftBehind arrays objects older older') session session') :
    Alike (leftBehind arrays objects older older') session.reset session'.reset := by
  refine ⟨alike.settings, { alike.states with globals := ⟨fun name => ?_, False.elim⟩ }⟩
  show Option.Rel _ (session.state.globals.clear.get? name) (session'.state.globals.clear.get? name)
  rw [Table.get?_clear, Table.get?_clear]
  exact .none

end Session

namespace Prompt

open Session

variable {bound bound' : Nat} {session session' last last' : Session}

/-! ## Conversations -/

/-- The replies to the lines that were read, and the session in which the prompt goes on, if it goes
on. -/
structure Conversation where
  /-- What was said to each line. -/
  replies : List (List Message)
  /-- The session after the last line, unless that line quit. -/
  session? : Option Session

namespace Conversation

/-- The conversation with one more reply in front. -/
def after (messages : List Message) (later : Conversation) : Conversation :=
  { later with replies := messages :: later.replies }

/-- The conversation without the reply at a place. -/
def without (place : Nat) (conversation : Conversation) : Conversation :=
  { conversation with replies := conversation.replies.eraseIdx place }

/-- All that is said to the lines, and the farewell at their end. A line that quits has got it as
its reply. -/
def said (conversation : Conversation) : List Message :=
  conversation.replies.flatten ++ if conversation.session?.isSome then farewell else []

/-- What is said with one more reply in front is that reply and then the rest. -/
theorem said_after (messages : List Message) (later : Conversation) :
    (later.after messages).said = messages ++ later.said :=
  List.append_assoc messages later.replies.flatten _

/-- Conversations that both go on or both do not, with replies that are the same one by one, but for
which of several equally near names a failure offers. -/
structure Matches (conversation conversation' : Conversation) : Prop where
  /-- As many replies, each of them with as many messages, which say the same. -/
  replies : List.Forall₂ (List.Forall₂ Message.SaysTheSame) conversation.replies
    conversation'.replies
  /-- Both go on, or both have come to their end. -/
  goesOn : conversation.session?.isSome = conversation'.session?.isSome

end Conversation

/-- The conversation that lines lead to, up to the line that quits if there is one. None if the
bound is too small for one of the runs. -/
def converse (bound : Nat) : Session → List String → Option Conversation
  | session, [] => some ⟨[], some session⟩
  | session, line :: rest =>
    (answer bound session (.ofLine line)).bind fun reply =>
      if reply.goesOn then (converse bound reply.session rest).map (.after reply.messages)
      else some ⟨[reply.messages], none⟩

/-- The prompt says what is said in the conversation that the lines lead to, with the farewell at
the end if no line has quit. -/
theorem answerAll_eq (bound : Nat) (session : Session) (lines : List String) :
    answerAll bound session lines = (converse bound session lines).map Conversation.said := by
  induction lines generalizing session with
  | nil => rfl
  | cons line rest inductionHypothesis =>
    rw [answerAll, converse]
    cases answer bound session (.ofLine line) with
    | none => rfl
    | some reply =>
      by_cases goesOn : reply.goesOn
      · have later := inductionHypothesis reply.session
        cases held : converse bound reply.session rest with
        | none => simp [goesOn, later, held]
        | some conversation => simp [goesOn, later, held, Conversation.said_after]
      · simp [goesOn, Conversation.said]

/-- What a prompt says is the banner and what is said in its conversation. So every statement on
conversations is one on what a host sees. -/
theorem transcript_eq (bound : Nat) (session : Session) (lines : List String) :
    transcript bound session lines =
      (converse bound session lines).map fun conversation => banner ++ conversation.said := by
  rw [transcript, answerAll_eq]
  cases converse bound session lines <;> rfl

/-- The last line is answered in the session that the others leave. This is how a conversation is
taken apart from its end. -/
theorem converse_concat {lines : List String} {line : String} {replies : List (List Message)}
    (held : converse bound session (lines ++ [line]) = some ⟨replies, some last⟩) :
    ∃ earlier middle reply, converse bound session lines = some ⟨earlier, some middle⟩ ∧
      answer bound middle (.ofLine line) = some reply ∧ reply.goesOn = true ∧
      reply.session = last := by
  induction lines generalizing session replies with
  | nil =>
    obtain ⟨reply, answered, held⟩ := Option.bind_eq_some_iff.mp held
    by_cases goesOn : reply.goesOn
    · simp only [goesOn, if_true, converse, Option.map_some, Conversation.after] at held
      cases held
      exact ⟨[], session, reply, rfl, answered, goesOn, rfl⟩
    · simp [goesOn] at held
  | cons first rest inductionHypothesis =>
    obtain ⟨firstReply, firstAnswered, held⟩ := Option.bind_eq_some_iff.mp held
    by_cases goesOn : firstReply.goesOn
    · rw [if_pos goesOn] at held
      obtain ⟨⟨laterReplies, _⟩, heldLater, same⟩ := Option.map_eq_some_iff.mp held
      cases same
      obtain ⟨earlier, middle, reply, heldEarlier, answered, ends⟩ := inductionHypothesis heldLater
      refine ⟨firstReply.messages :: earlier, middle, reply, ?_, answered, ends⟩
      simp [converse, firstAnswered, goesOn, heldEarlier, Conversation.after]
    · simp [goesOn] at held

/-! ## Lines that leave no trace -/

/-- What a line comes to when its backspaces have done their work, blanks at its ends aside. The
prompt looks at nothing else of a line. -/
def entered (line : String) : String :=
  String.ofList (Text.trim (Text.settle (Text.withoutLineEnd line.toList)))

/-- What a line asks for depends on what is entered by it, and first on whether that is empty or
begins with a colon. -/
theorem ofLine_eq (line : String) :
    Request.ofLine line =
      if entered line = "" then .nothing
      else if (entered line).toList.head? = some ':' then .ofCommand (entered line)
      else .statement (entered line) := by
  unfold Request.ofLine entered
  generalize Text.trim _ = text
  match text with
  | [] => rfl
  | c :: rest =>
    by_cases colon : c = ':'
    · subst colon
      simp
    · simp [colon]

/-- What is cut off as the end of a line is blank. -/
theorem exists_lineEnd (line : List Char) :
    ∃ ending, line = Text.withoutLineEnd line ++ ending ∧
      ∀ c ∈ ending, Text.isBlank c = true := by
  unfold Text.withoutLineEnd
  split
  · next rest backwards =>
    refine ⟨['\r', '\n'], ?_, List.forall_mem_cons.mpr ⟨rfl, List.forall_mem_singleton.mpr rfl⟩⟩
    rw [← List.reverse_reverse line, backwards]
    simp
  · next rest _ backwards =>
    refine ⟨['\n'], ?_, List.forall_mem_singleton.mpr rfl⟩
    rw [← List.reverse_reverse line, backwards]
    simp
  · exact ⟨[], (List.append_nil line).symm, by simp⟩

/-- Blanks at the end of a text do not matter to what is left when it is trimmed. -/
theorem trim_append_blanks (text : List Char) {blanks : List Char}
    (blank : ∀ c ∈ blanks, Text.isBlank c = true) :
    Text.trim (text ++ blanks) = Text.trim text := by
  have backwards : ∀ c ∈ blanks.reverse, Text.isBlank c = true := by simpa using blank
  simp only [Text.trim, Text.trimLeft, List.dropWhile_append]
  split
  · next nothing =>
    rw [List.isEmpty_iff.mp nothing, List.dropWhile_eq_nil_iff.mpr blank]
  · rw [List.reverse_append, List.dropWhile_append_of_pos backwards]

/-- A line in which nothing is taken back is entered as it stands, but for the blanks around it; its
line feed is one of these. -/
theorem entered_eq_trim {line : String} (plain : Text.backspace ∉ line.toList) :
    entered line = String.ofList (Text.trim line.toList) := by
  obtain ⟨ending, same, blank⟩ := exists_lineEnd line.toList
  have kept : Text.settle (Text.withoutLineEnd line.toList) = Text.withoutLineEnd line.toList := by
    apply Text.settle_eq_self
    intro among
    exact plain (same ▸ List.mem_append_left ending among)
  have trimmed := trim_append_blanks (Text.withoutLineEnd line.toList) blank
  rw [← same] at trimmed
  rw [entered, kept, trimmed]

/-- The commands that a prompt knows. -/
def commands : List String :=
  [":quit", ":q", ":exit", ":help", ":h", ":?", ":globals", ":reset"]

/-- A line that ends the conversation: one of the three commands, typed in any way that comes to
it. -/
def Quits (line : String) : Prop :=
  entered line ∈ [":quit", ":q", ":exit"]

/-- A line that asks for nothing to be done. It may get an answer, but the session is not
touched. -/
inductive Inert (line : String) : Prop where
  /-- It is blank. -/
  | blank (typed : entered line = "")
  /-- It asks for help. -/
  | help (typed : entered line ∈ [":help", ":h", ":?"])
  /-- It asks for the global names. -/
  | globals (typed : entered line = ":globals")
  /-- It is a command that is not known. -/
  | unknown (colon : (entered line).toList.head? = some ':') (other : entered line ∉ commands)
  /-- It is a text that is no program. -/
  | refused {failure : HostError} (noColon : (entered line).toList.head? ≠ some ':')
      (decoded : Stmt.decode (entered line) = .error failure)

/-- A line of blanks asks for nothing to be done; a backspace is not a blank. -/
theorem Inert.of_blanks {line : String} (blank : ∀ c ∈ line.toList, Text.isBlank c = true) :
    Inert line := by
  have plain : Text.backspace ∉ line.toList := fun among =>
    absurd (blank _ among) (by decide)
  have nothing : Text.trim line.toList = [] := by
    simp [Text.trim, Text.trimLeft, List.dropWhile_eq_nil_iff.mpr blank]
  apply Inert.blank
  rw [entered_eq_trim plain, nothing]

/-- The prompt answers such a line and goes on in the same session. No run is started, so the bound
does not matter. -/
theorem Inert.answer_eq {line : String} (inert : Inert line) (bound : Nat) (session : Session) :
    ∃ messages, answer bound session (.ofLine line) = some ⟨messages, session, true⟩ := by
  rw [ofLine_eq]
  cases inert with
  | blank typed =>
    rw [if_pos typed]
    exact ⟨_, rfl⟩
  | help typed =>
    have typed : entered line = ":help" ∨ entered line = ":h" ∨ entered line = ":?" := by
      simpa using typed
    rcases typed with typed | typed | typed <;> rw [typed] <;> exact ⟨_, rfl⟩
  | globals typed =>
    rw [typed]
    exact ⟨_, rfl⟩
  | unknown colon other =>
    have notEmpty : entered line ≠ "" := by
      intro empty
      simp [empty] at colon
    have asked : Request.ofCommand (entered line) = .unknown (entered line) := by
      simp only [commands, List.mem_cons, List.not_mem_nil, or_false, not_or] at other
      simp [Request.ofCommand, other]
    rw [if_neg notEmpty, if_pos colon, asked]
    exact ⟨_, rfl⟩
  | refused noColon decoded =>
    by_cases empty : entered line = ""
    · rw [if_pos empty]
      exact ⟨_, rfl⟩
    · rw [if_neg empty, if_neg noColon]
      simp [answer, runStatement, eval_refused decoded]

/-- Without a line that asks for nothing to be done, only the reply to it goes missing. By induction
on the lines before it, each of which is answered as it was. -/
theorem Inert.converse_eq {line : String} (inert : Inert line) (bound : Nat) (session : Session)
    (before after : List String) :
    converse bound session (before ++ after) =
      (converse bound session (before ++ line :: after)).map (.without before.length) := by
  induction before generalizing session with
  | nil =>
    obtain ⟨messages, answered⟩ := inert.answer_eq bound session
    simp [converse, answered, Function.comp_def, Conversation.after, Conversation.without]
  | cons first rest inductionHypothesis =>
    rw [List.cons_append, List.cons_append, converse, converse]
    cases answer bound session (.ofLine first) with
    | none => rfl
    | some reply =>
      by_cases goesOn : reply.goesOn
      · simp [goesOn, inductionHypothesis, Function.comp_def, Conversation.after,
          Conversation.without]
      · simp [goesOn, Conversation.without]

/-- A line that quits gets the farewell in every session, and the prompt does not go on. -/
theorem Quits.answer_eq {line : String} (quits : Quits line) (bound : Nat) (session : Session) :
    answer bound session (.ofLine line) = some ⟨farewell, session, false⟩ := by
  have typed : entered line = ":quit" ∨ entered line = ":q" ∨ entered line = ":exit" := by
    simpa [Quits] using quits
  rw [ofLine_eq]
  rcases typed with typed | typed | typed <;> rw [typed] <;> rfl

/-- What follows a line that quits is not read. The replies and the session are those of the lines
up to it. -/
theorem Quits.converse_eq {line : String} (quits : Quits line) (bound : Nat) (session : Session)
    (before after : List String) :
    converse bound session (before ++ line :: after) =
      converse bound session (before ++ [line]) := by
  induction before generalizing session with
  | nil => simp [converse, quits.answer_eq]
  | cons first rest inductionHypothesis =>
    simp only [List.cons_append, converse, inductionHypothesis]

/-! ## What a reply depends on -/

/-- The program of a request, if it is for a run and its text is one of a program. -/
def Request.program? : Request → Option Stmt
  | .statement text => Stmt.ofText? text
  | _ => none

/-- The programs among lines since the last reset, or among all of them if there is none. Texts that
are refused do not count. -/
def programsSinceReset (lines : List String) : List Stmt :=
  (lines.rtakeWhile fun line => Request.ofLine line ≠ .reset).filterMap fun line =>
    (Request.ofLine line).program?

/-- After a line that resets there is no program to count yet. -/
theorem programsSinceReset_of_reset {line : String} (isReset : Request.ofLine line = .reset)
    (lines : List String) : programsSinceReset (lines ++ [line]) = [] := by
  rw [programsSinceReset, List.rtakeWhile_concat_neg _ _ _ (by simp [isReset]),
    List.filterMap_nil]

/-- A line that does not reset adds its program, if it is a text of one, behind those before it. -/
theorem programsSinceReset_concat {line : String} (noReset : Request.ofLine line ≠ .reset)
    (lines : List String) :
    programsSinceReset (lines ++ [line]) =
      programsSinceReset lines ++ (Request.ofLine line).program?.toList := by
  rw [programsSinceReset, List.rtakeWhile_concat_pos _ _ _ (by simpa using noReset),
    List.filterMap_append, ← programsSinceReset]
  cases read : (Request.ofLine line).program? with
  | none => simp [read]
  | some program => simp [read]

/-- What can become of a session when the prompt goes on: it is reset, it stays as it was, or it
runs a program. -/
theorem answer_cases {request : Request} {reply : Reply}
    (answered : answer bound session request = some reply) (goesOn : reply.goesOn = true) :
    request = .reset ∧ reply.session = session.reset ∨
    request ≠ .reset ∧ request.program? = none ∧ reply.session = session ∨
    request ≠ .reset ∧ ∃ program result, request.program? = some program ∧
      session.eval bound program.encode = some (result, reply.session) := by
  cases request with
  | nothing | help | globals | unknown =>
    cases answered
    exact .inr (.inl ⟨by simp, rfl, rfl⟩)
  | quit =>
    cases answered
    cases goesOn
  | reset =>
    cases answered
    exact .inl ⟨rfl, rfl⟩
  | statement text =>
    obtain ⟨⟨result, next⟩, evaluated, same⟩ := Option.bind_eq_some_iff.mp answered
    cases same
    cases decoded : Stmt.decode text with
    | error failure =>
      rw [eval_refused decoded] at evaluated
      cases evaluated
      exact .inr (.inl ⟨by simp, Stmt.ofText?_of_error decoded, rfl⟩)
    | ok program =>
      have read := Stmt.ofText?_of_ok decoded
      exact .inr (.inr ⟨by simp, program, result, read, (eval_encode read).trans evaluated⟩)

/-- The session after lines is one without global names that has run the programs since the last
reset. -/
theorem exists_bare {lines : List String} {replies : List (List Message)} (bare : session.Bare)
    (held : converse bound session lines = some ⟨replies, some last⟩) :
    ∃ (base : Session) (exchanges : List Exchange), base.Bare ∧ base.settings = session.settings ∧
      base.evalAll bound ((programsSinceReset lines).map Stmt.encode) = some (exchanges, last) := by
  induction lines using List.reverseRecOn generalizing replies last with
  | nil =>
    cases held
    exact ⟨session, [], bare, rfl, rfl⟩
  | append_singleton lines line inductionHypothesis =>
    obtain ⟨earlier, middle, reply, heldEarlier, answered, goesOn, rfl⟩ := converse_concat held
    obtain ⟨base, exchanges, bareBase, settings, ran⟩ := inductionHypothesis heldEarlier
    obtain ⟨sameSettings, evolves⟩ := evalAll_evolves bareBase.top ran
    rcases answer_cases answered goesOn with
      ⟨isReset, same⟩ | ⟨noReset, noProgram, same⟩ | ⟨noReset, program, result, read, evaluated⟩
    · obtain ⟨top, neverFails⟩ := bareBase.after evolves
      refine ⟨middle.reset, [], bare_reset top neverFails, sameSettings.trans settings, ?_⟩
      rw [programsSinceReset_of_reset isReset, same, List.map_nil, evalAll]
    · refine ⟨base, exchanges, bareBase, settings, ?_⟩
      rw [programsSinceReset_concat noReset, noProgram, same, Option.toList_none, List.append_nil]
      exact ran
    · refine ⟨base, exchanges ++ [⟨program.encode, result⟩], bareBase, settings, ?_⟩
      rw [programsSinceReset_concat noReset, read, Option.toList_some, List.map_append]
      exact evalAll_concat ran evaluated

section Alike

variable {arrays objects : Matching} {older older' : List String}

/-- In sessions that hold the same, values that are the same are said in the same words; null is not
said at all. -/
theorem sayValue_eq {value value' : Value}
    (alike : Alike (leftBehind arrays objects older older') session session')
    (values : (leftBehind arrays objects older older').correspondence.Values value value') :
    sayValue session value = sayValue session' value' := by
  have shown := alike.states.render_eq values
  cases values with
  | null => rfl
  | int | array | object => simp only [sayValue, shown]

/-- Replies in sessions that hold the same say the same and leave the sessions so, and the prompt
goes on after both or after neither. -/
structure Reply.Matches (d : Displacement) (reply reply' : Reply) : Prop where
  /-- As many messages, which say the same. -/
  messages : List.Forall₂ Message.SaysTheSame reply.messages reply'.messages
  /-- The sessions hold the same. -/
  sessions : Alike d reply.session reply'.session
  /-- The prompt goes on after both or after neither. -/
  goesOn : reply.goesOn = reply'.goesOn

/-- Sessions that hold the same reply the same to any request and hold the same afterwards. For a
text this is what is known of its run; for the global names it is that their listing does not depend
on the tables. -/
theorem answer_alike (alike : Alike (leftBehind arrays objects older older') session session')
    (bound : Nat) (request : Request) :
    Option.Rel (Reply.Matches (leftBehind arrays objects older older'))
      (answer bound session request) (answer bound session' request) := by
  cases request with
  | nothing | quit | help | unknown =>
    exact .some ⟨Message.forall₂_saysTheSame _, alike, rfl⟩
  | reset => exact .some ⟨Message.forall₂_saysTheSame _, alike.reset, rfl⟩
  | globals =>
    have described : session.describeGlobals = session'.describeGlobals :=
      alike.states.describe_eq alike.states.globals
    simp only [answer, described]
    exact .some ⟨Message.forall₂_saysTheSame _, alike, rfl⟩
  | statement text =>
    have answers := alike.eval bound text
    simp only [answer, runStatement]
    generalize session.eval bound text = found, session'.eval bound text = found' at answers ⊢
    cases answers with
    | none => exact .none
    | some answers =>
      cases answers with
      | ok values later =>
        refine .some ⟨?_, later, rfl⟩
        simp only [alike.printed later, sayValue_eq later values]
        exact Message.forall₂_saysTheSame _
      | error same later =>
        refine .some ⟨?_, later, rfl⟩
        simp only [alike.printed later]
        exact .cons (.same _) (.cons (.failure same) .nil)

/-- Conversations in sessions that hold the same say the same. By induction on the lines, from the
first on. -/
theorem converse_alike (alike : Alike (leftBehind arrays objects older older') session session')
    (bound : Nat) (lines : List String) :
    Option.Rel Conversation.Matches (converse bound session lines)
      (converse bound session' lines) := by
  induction lines generalizing session session' with
  | nil => exact .some ⟨.nil, rfl⟩
  | cons line rest inductionHypothesis =>
    have answers := answer_alike alike bound (.ofLine line)
    rw [converse, converse]
    generalize answer bound session _ = found, answer bound session' _ = found' at answers ⊢
    cases answers with
    | none => exact .none
    | @some reply reply' matched =>
      simp only [Option.bind_some, matched.goesOn]
      by_cases goesOn : reply'.goesOn
      · have later := inductionHypothesis matched.sessions
        simp only [goesOn, if_true]
        generalize converse bound reply.session rest = held,
          converse bound reply'.session rest = held' at later ⊢
        cases later with
        | none => exact .none
        | some later => exact .some ⟨.cons matched.messages later.replies, later.goesOn⟩
      · simp only [goesOn]
        exact .some ⟨.cons matched.messages .nil, rfl⟩

end Alike

/-- Lines that ask for nothing to be done leave no trace. What a prompt says is the banner, what it
says to each line, and the farewell. If a line is blank, asks for help or for the global names, is
an unknown command or a text that is no program, then leaving it out removes the reply to it and
changes no other reply. Lines after one that quits are not read. And if the same programs were read
since the last reset, in two conversations that began in fresh sessions with the same settings and
an output that never fails, then all that follows gets the same replies; only a failure may offer
another name that is equally near. -/
theorem inert_lines_leave_no_trace :
    (∀ bound session lines, transcript bound session lines =
      (converse bound session lines).map fun conversation => banner ++ conversation.said) ∧
    (∀ bound session before line after, Inert line →
      converse bound session (before ++ after) =
        (converse bound session (before ++ line :: after)).map (.without before.length)) ∧
    (∀ bound session before line after, Quits line →
      converse bound session (before ++ line :: after) =
        converse bound session (before ++ [line])) ∧
    ∀ (σ : Settings) (sink : Sink), sink.NeverFails →
      ∀ bound bound' before before' replies replies' session session',
        converse bound (start σ sink) before = some ⟨replies, some session⟩ →
        converse bound' (start σ sink) before' = some ⟨replies', some session'⟩ →
        programsSinceReset before = programsSinceReset before' →
        ∀ later lines, Option.Rel Conversation.Matches (converse later session lines)
          (converse later session' lines) := by
  refine ⟨transcript_eq, ?_, ?_, ?_⟩
  · exact fun bound session before line after inert => inert.converse_eq bound session before after
  · exact fun bound session before line after quits => quits.converse_eq bound session before after
  · intro σ sink neverFails bound bound' before before' replies replies' session session' held held'
      same later lines
    obtain ⟨base, _, bare, settings, ran⟩ := exists_bare (bare_start neverFails) held
    obtain ⟨base', _, bare', settings', ran'⟩ := exists_bare (bare_start neverFails) held'
    rw [← same] at ran'
    have alike := bare.alike bare' (settings.trans settings'.symm)
    exact converse_alike (alike.evalAll ran ran') later lines

/-- A name is declared and forgotten again before another one is declared; the other conversation
has only a blank line before that. A line that asks for the global names is left out, and a name
that is near to the declared one is read. -/
theorem inert_lines_leave_no_trace_misspelt :
    let fresh := start .default .unlimited
    let declaration (name : String) := "\x7b\"Var\":[\"" ++ name ++ "\",\"Null\"]\x7d"
    let before := [declaration "x", ":reset\r\n", declaration "ab"]
    let before' := [" \n", declaration "ab"]
    let misspelt := "\x7b\"Exp\":\x7b\"Ref\":\"ac\"\x7d\x7d\n"
    Inert ":globals\n" ∧ Quits ":q" ∧
      programsSinceReset before = [.var "ab" .null] ∧
      programsSinceReset before' = [.var "ab" .null] ∧
      converse 9 fresh (before ++ [misspelt]) =
        (converse 9 fresh (before ++ ":globals\n" :: [misspelt])).map (.without 3) ∧
      converse 9 fresh (before ++ ":q" :: [misspelt]) = converse 9 fresh (before ++ [":q"]) ∧
      ∃ replies replies' session session',
        converse 9 fresh before = some ⟨replies, some session⟩ ∧
        converse 9 fresh before' = some ⟨replies', some session'⟩ ∧
        Option.Rel Conversation.Matches (converse 9 session [misspelt])
          (converse 9 session' [misspelt]) := by
  intro fresh declaration before before' misspelt
  have inert : Inert ":globals\n" := .globals (by decide +kernel)
  have quits : Quits ":q" := by
    unfold Quits
    decide +kernel
  have programs : programsSinceReset before = [.var "ab" .null] := by decide +kernel
  have programs' : programsSinceReset before' = [.var "ab" .null] := by decide +kernel
  have goesOn : ((converse 9 fresh before).bind Conversation.session?).isSome := by decide +kernel
  have goesOn' : ((converse 9 fresh before').bind Conversation.session?).isSome := by
    decide +kernel
  obtain ⟨session, ended⟩ := Option.isSome_iff_exists.mp goesOn
  obtain ⟨session', ended'⟩ := Option.isSome_iff_exists.mp goesOn'
  obtain ⟨⟨replies, _⟩, held, rfl⟩ := Option.bind_eq_some_iff.mp ended
  obtain ⟨⟨replies', _⟩, held', rfl⟩ := Option.bind_eq_some_iff.mp ended'
  obtain ⟨_, leftOut, notRead, sameReplies⟩ := inert_lines_leave_no_trace
  refine ⟨inert, quits, programs, programs', leftOut 9 fresh before _ [misspelt] inert,
    notRead 9 fresh before _ [misspelt] quits, replies, replies', session, session', held, held',
    ?_⟩
  exact sameReplies .default .unlimited Sink.neverFails_unlimited 9 9 before before' replies
    replies' session session' held held' (programs.trans programs'.symm) 9 [misspelt]

end Prompt

end SlotLang
