namespace ma_core.constants

def NAME : String := "ma"
def VERSION : String := "0.0.1"
def rendezvous : String := "/" ++ NAME ++ "/" ++ VERSION
def blake3_content_label : String := rendezvous
def BLAKE3_HEADERS_LABEL : String := NAME

end ma_core.constants

namespace ma_core.service

def INBOX_PROTOCOL_ID : String := "/ma/inbox/0.0.1"
def IPFS_PROTOCOL_ID : String := "/ma/ipfs/0.0.1"
def MESSAGE_TYPE_BROADCAST : String := "application/vnd.ma.broadcast"
def MESSAGE_TYPE_MESSAGE : String := "application/vnd.ma.message"
def MESSAGE_TYPE_IDENTITY_PUBLISH_REQUEST : String := "application/vnd.ma.identity.publish.request"
def CONTENT_TYPE_CBOR : String := "application/cbor"

end ma_core.service
