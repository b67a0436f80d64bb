import RequestLine.Descriptor
import RequestLine.Rejection
import RequestLine.Schema

set_option autoImplicit false

namespace RequestLine.Schema

abbrev Fields := List (String × Shape × Option Json)

def anyInteger : Shape := .integer none none

def anyString : Shape := .string 0

def timingFields : Fields := [
  ("duration", .integer (some 0) none, none),
  ("start_timestamp", anyInteger, none),
  ("end_timestamp", anyInteger, none)]

def replyFields : Fields := [
  ("status", .integer (some 100) (some 999), none),
  ("data", .anything, some .null)]

def requestFields : Fields := [
  ("query", .members, none),
  ("body", .anything, none),
  ("headers", .nullable .members, none),
  ("full_url", anyString, none)]

def responseFields : Fields := [
  ("http_status", anyInteger, none),
  ("duration", anyInteger, none),
  ("request_start_timestamp", anyInteger, none),
  ("request_stop_timestamp", anyInteger, none),
  ("response_data", .anything, none)]

def descriptor : Schema where
  frozen := true
  fields := [
    ("method", .choice ["GET", "POST"], none),
    ("url", .string 1, none),
    ("headers", .nullable .members, some .null),
    ("query", .members, some (.obj [])),
    ("body", .anything, some (.obj [])),
    ("full_url", .string 1, none)]

def rejection : Schema where
  frozen := true
  fields := [("code", .choice Rejection.codes, none), ("message", anyString, none)]

def timing : Schema := ⟨timingFields, false⟩

def reply : Schema := ⟨replyFields, false⟩

def execution : Schema where
  frozen := false
  fields := [("response", .record replyFields, none), ("timing", .record timingFields, none)]

def request : Schema := ⟨requestFields, false⟩

def response : Schema := ⟨responseFields, false⟩

def envelope : Schema where
  frozen := false
  fields := [("request", .record requestFields, none), ("response", .record responseFields, none)]

def failed : Schema where
  frozen := false
  fields := [("error", .boolean, some (.bool true)), ("message", anyString, none)]

end RequestLine.Schema
