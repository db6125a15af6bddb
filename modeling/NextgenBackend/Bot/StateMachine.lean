import NextgenBackend.Core.Session
import NextgenBackend.Utils.Time

namespace NextgenBackend.Bot

open Txn

def sessionTimeoutMinutes : Nat := 60

def newConversation (businessId customerId : Uuid) (now : Instant) : ConversationSession where
  businessId := businessId
  customerId := customerId
  state := .idle
  context := {}
  lastActivityAt := now
  expiresAt := some (now + sessionTimeoutMinutes * Time.minute)

def insertConversation (conversation : ConversationSession) : Pending := fun t =>
  { t with conversationSessions := t.conversationSessions.insert conversation }

def expired (conversation : ConversationSession) (now : Instant) : Bool :=
  conversation.expiresAt.any fun expiresAt => expiresAt < now

def resume (now : Instant) (conversation : ConversationSession) : ConversationSession :=
  let fresh := expired conversation now
  { conversation with
    state := if fresh then .idle else conversation.state
    context := if fresh then {} else conversation.context
    lastActivityAt := now
    expiresAt := some (now + sessionTimeoutMinutes * Time.minute) }

def getOrCreateSession (session : Session) (businessId customerId : Uuid) :
    Handler (ConversationSession × Session) := do
  let now ← readNow
  let row ← .lock (.conversation businessId customerId) fun db =>
    db.conversationSessions.lookup (businessId, customerId)
  match row with
  | some conversation => pure (resume now conversation, session)
  | none =>
      let fresh := newConversation businessId customerId now
      pure (resume now fresh, session.stage [] (insertConversation fresh))

def writeConversation (written conversation : ConversationSession) : ConversationSession :=
  { conversation with
    state := written.state
    context := written.context
    lastActivityAt := written.lastActivityAt
    expiresAt := written.expiresAt }

def clearCart (context : Context) : Context :=
  { context with
    draft := { context.draft with
      cart := []
      confirmedCart := []
      orderMode := none
      orderNotesAsked := false
      orderNotes := none }
    pendingOrderId := none
    deliveryFeeCents := none
    deliveryFeeStatus := none
    paymentMethod := none
    supersededOrderId := none }

end NextgenBackend.Bot
