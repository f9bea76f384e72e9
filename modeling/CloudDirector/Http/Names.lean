/-!
# Names on the wire

Headers, cookies and media types that a client and its server agree on.
-/
namespace CloudDirector.Http

namespace Name

def legacyToken : String := "x-vcloud-authorization"

def accessToken : String := "x-vmware-vcloud-access-token"

/-- The header that says in which organization an access token acts. -/
def authContext : String := "x-vmware-vcloud-auth-context"

def tenantContext : String := "x-vmware-vcloud-tenant-context"

def clientRequestId : String := "x-vmware-vcloud-client-request-id"

/-- The header of the server's number of a request. -/
def requestId : String := "x-vmware-vcloud-request-id"

def accept : String := "accept"
def authorization : String := "authorization"
def contentType : String := "content-type"
def cookie : String := "cookie"
def date : String := "date"
def link : String := "link"
def location : String := "location"
def setCookie : String := "set-cookie"
def userAgent : String := "user-agent"

end Name

namespace CookieName

def legacy : String := "vcloud-token"

def accessToken : String := "vcloud_jwt"

def session : String := "vcloud_session_id"

end CookieName

namespace Media

/-- The type of bodies and answers for which none is named. -/
def anyJson : String := "application/*+json"

def entity : String := "application/vnd.vmware.vcloud.entity+json"
def organization : String := "application/vnd.vmware.vcloud.org+json"
def organizationList : String := "application/vnd.vmware.vcloud.orgList+json"
def queryList : String := "application/vnd.vmware.vcloud.query.queryList+json"
def admin : String := "application/vnd.vmware.admin.vcloud+json"
def adminOrganization : String := "application/vnd.vmware.admin.organization+json"
def apiExtensibility : String := "application/vnd.vmware.vcloud.apiextensibility+json"
def extension : String := "application/vnd.vmware.admin.vmwextension+json"
def systemSettings : String := "application/vnd.vmware.admin.systemSettings+json"
def amqpSettings : String := "application/vnd.vmware.admin.amqpSettings+json"
def session : String := "application/vnd.vmware.vcloud.session+json"
def task : String := "application/vnd.vmware.vcloud.task+json"
def records : String := "application/vnd.vmware.vcloud.query.records+json"
def idRecords : String := "application/vnd.vmware.vcloud.query.idrecords+json"
def references : String := "application/vnd.vmware.vcloud.query.references+json"
def json : String := "application/json"
def xml : String := "application/xml"

def errorDetail : String := "application/vnd.vmware.vcloud.error"

def plainText : String := "text/plain"
def xmlText : String := "text/xml"

end Media

end CloudDirector.Http
