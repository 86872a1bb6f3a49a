import CurlFtpFs.RangeText
import CurlFtpFs.Multi
import CurlFtpFs.ReadChunk
import CurlFtpFs.ReadDispatch
import CurlFtpFs.ReadWindow
import CurlFtpFs.ReadRun
import CurlFtpFs.Sequential
import CurlFtpFs.Upload
import CurlFtpFs.UploadLifecycle
import CurlFtpFs.UploadProtocol
import CurlFtpFs.UploadProgress
import CurlFtpFs.UploadSize
import CurlFtpFs.UploadContent
import CurlFtpFs.ReadHandles
import CurlFtpFs.Commands
import CurlFtpFs.RoundTrip
